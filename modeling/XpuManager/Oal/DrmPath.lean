import Mathlib.Data.List.Nodup
import XpuManager.Oal.VfQuotas

/-! # The card of a device

The path of a device's card is looked up in `/sys/class/drm` (`oal/lin/lin.cpp`), by the address that
the link `device` of each card leads to. -/

namespace XpuManager

/-- Where the link `device` of a card leads, if there is one and it can be read. -/
inductive DeviceLink where
  | absent
  | leadsTo (path : String)
  | failed
  deriving DecidableEq

/-- An entry of `/sys/class/drm`. -/
structure DrmEntry where
  name : String
  link : DeviceLink
  name_ne : name ≠ ""
  noSlash : '/' ∉ name.toList

/-- The entries in the order in which they are listed, as far as that goes. -/
structure DrmListing where
  entries : List DrmEntry
  nodup : (entries.map DrmEntry.name).Nodup

namespace DrmEntry

/-- `card0` and so on, but not `card0-DP-1`. -/
def isCard (entry : DrmEntry) : Bool :=
  "card".toList.isPrefixOf entry.name.toList && !entry.name.toList.contains '-'

end DrmEntry

/-- The last component of a path. -/
def fileName (path : String) : String := String.ofList (path.toList.rtakeWhile (· ≠ '/'))

/-- The loop of `getDrmPath`; an exception ends it with what it has. -/
def searchDrm (bdf : String) : List DrmEntry → String → String
  | [], drmPath => drmPath
  | entry :: entries, drmPath =>
    if entry.isCard then
      match entry.link with
      | .failed => "/sys/class/drm/" ++ entry.name
      | .absent => searchDrm bdf entries ("/sys/class/drm/" ++ entry.name)
      | .leadsTo path =>
        if fileName path = bdf then "/dev/dri/" ++ entry.name
        else searchDrm bdf entries ("/sys/class/drm/" ++ entry.name)
    else searchDrm bdf entries drmPath

/-- The search for a card, which remembers the last directory it has looked at. -/
def getDrmPath (drm : DrmListing) (bdf : String) : String := searchDrm bdf drm.entries ""

/-! ## What the search finds -/

/-- The entry is the card of a device. -/
structure DrmEntry.Names (entry : DrmEntry) (bdf : String) : Prop where
  card : entry.isCard = true
  link : ∃ path, entry.link = .leadsTo path ∧ fileName path = bdf

/-- A path as it is promised: none, or that of the device's card. -/
def NamesCard (entries : List DrmEntry) (bdf path : String) : Prop :=
  path = "" ∨ ∃ entry ∈ entries, entry.Names bdf ∧ path = "/dev/dri/" ++ entry.name

/-- The device's card is listed, and no link of a card before it fails. -/
def Listed (bdf : String) (entries : List DrmEntry) : Prop :=
  ∃ before entry after, entries = before ++ entry :: after ∧ entry.Names bdf ∧
    ∀ other ∈ before, other.isCard = true → other.link ≠ .failed

variable {bdf path : String} {entry : DrmEntry} {entries : List DrmEntry}

theorem Listed.cons (h : Listed bdf entries)
    (hgood : entry.isCard = true → entry.link ≠ .failed) : Listed bdf (entry :: entries) := by
  obtain ⟨before, found, after, rfl, hnames, hbefore⟩ := h
  refine ⟨entry :: before, found, after, rfl, hnames, fun other hmem => ?_⟩
  rcases List.mem_cons.mp hmem with rfl | hmem
  · exact hgood
  · exact hbefore other hmem

/-- **The search of a listed card** finds a card of the device. -/
theorem searchDrm_of_listed (h : Listed bdf entries) (drmPath : String) :
    ∃ entry ∈ entries, entry.Names bdf ∧
      searchDrm bdf entries drmPath = "/dev/dri/" ++ entry.name := by
  obtain ⟨before, found, after, rfl, hnames, hbefore⟩ := h
  induction before generalizing drmPath with
  | nil =>
    obtain ⟨hcard, path, hlink, hname⟩ := hnames
    refine ⟨found, List.mem_cons_self, ⟨hcard, path, hlink, hname⟩, ?_⟩
    rw [List.nil_append, searchDrm, if_pos hcard, hlink]
    exact if_pos hname
  | cons other before ih =>
    have hih (drmPath : String) := ih drmPath fun o hmem => hbefore o (List.mem_cons_of_mem _ hmem)
    rw [List.cons_append, searchDrm]
    by_cases hcard : other.isCard = true
    · rw [if_pos hcard]
      cases hlink : other.link with
      | failed => exact absurd hlink (hbefore other List.mem_cons_self hcard)
      | absent =>
        obtain ⟨entry, hmem, hentry⟩ := hih ("/sys/class/drm/" ++ other.name)
        exact ⟨entry, List.mem_cons_of_mem _ hmem, hentry⟩
      | leadsTo path =>
        by_cases hname : fileName path = bdf
        · exact ⟨other, List.mem_cons_self, ⟨hcard, path, hlink, hname⟩, if_pos hname⟩
        · obtain ⟨entry, hmem, hentry⟩ := hih ("/sys/class/drm/" ++ other.name)
          dsimp only
          rw [if_neg hname]
          exact ⟨entry, List.mem_cons_of_mem _ hmem, hentry⟩
    · rw [if_neg hcard]
      obtain ⟨entry, hmem, hentry⟩ := hih drmPath
      exact ⟨entry, List.mem_cons_of_mem _ hmem, hentry⟩

/-- **The search of a card that is not listed** returns what it had, if there is no card, or the
directory of some card. -/
theorem searchDrm_of_not_listed (h : ¬Listed bdf entries) (drmPath : String) :
    ((∀ entry ∈ entries, entry.isCard = false) ∧ searchDrm bdf entries drmPath = drmPath) ∨
      ∃ name, searchDrm bdf entries drmPath = "/sys/class/drm/" ++ name := by
  induction entries generalizing drmPath with
  | nil => exact .inl ⟨nofun, rfl⟩
  | cons entry entries ih =>
    rw [searchDrm]
    by_cases hcard : entry.isCard = true
    · right
      rw [if_pos hcard]
      cases hlink : entry.link with
      | failed => exact ⟨entry.name, rfl⟩
      | absent =>
        have hgood : entry.isCard = true → entry.link ≠ .failed := fun _ => by rw [hlink]; nofun
        rcases ih (fun hl => h (hl.cons hgood)) ("/sys/class/drm/" ++ entry.name) with h' | h'
        · exact ⟨entry.name, h'.2⟩
        · exact h'
      | leadsTo path =>
        have hgood : entry.isCard = true → entry.link ≠ .failed := fun _ => by rw [hlink]; nofun
        have hname : fileName path ≠ bdf :=
          fun hname => h ⟨[], entry, entries, rfl, ⟨hcard, path, hlink, hname⟩, nofun⟩
        dsimp only
        rw [if_neg hname]
        rcases ih (fun hl => h (hl.cons hgood)) ("/sys/class/drm/" ++ entry.name) with h' | h'
        · exact ⟨entry.name, h'.2⟩
        · exact h'
    · rw [if_neg hcard]
      rcases ih (fun hl => h (hl.cons fun hc => absurd hc hcard)) drmPath with ⟨hnone, h'⟩ | h'
      · left
        refine ⟨fun other hmem => ?_, h'⟩
        rcases List.mem_cons.mp hmem with rfl | hmem
        · exact Bool.eq_false_iff.mpr hcard
        · exact hnone other hmem
      · exact .inr h'

/-- Without cards there is nothing to find. -/
theorem searchDrm_of_no_card (h : ∀ entry ∈ entries, entry.isCard = false) (drmPath : String) :
    searchDrm bdf entries drmPath = drmPath := by
  induction entries with
  | nil => rfl
  | cons entry entries ih =>
    rw [searchDrm, if_neg (Bool.eq_false_iff.mp (h entry List.mem_cons_self))]
    exact ih fun other hmem => h other (List.mem_cons_of_mem entry hmem)

/-- Texts that differ at the front. -/
theorem append_ne_append {head head' : String} {n : Nat} (hlength : n ≤ head.toList.length)
    (hlength' : n ≤ head'.toList.length) (hne : head.toList.take n ≠ head'.toList.take n)
    (tail tail' : String) : head ++ tail ≠ head' ++ tail' := by
  intro h
  have hlist := congrArg (fun s => s.toList.take n) h
  simp only [String.toList_append, List.take_append_of_le_length hlength,
    List.take_append_of_le_length hlength'] at hlist
  exact hne hlist

/-- A path in `/sys/class/drm` is not as promised. -/
theorem not_namesCard_sys (entries : List DrmEntry) (bdf name : String) :
    ¬NamesCard entries bdf ("/sys/class/drm/" ++ name) := by
  rintro (h | ⟨entry, -, -, h⟩)
  · have hlength := congrArg String.length h
    rw [String.length_append, String.length_empty] at hlength
    have hpos : 0 < "/sys/class/drm/".length := by decide
    omega
  · exact @append_ne_append "/sys/class/drm/" "/dev/dri/" 2 (by decide) (by decide)
      (by decide) _ _ h

/-- The card can be found, or there is none. -/
def Findable (drm : DrmListing) (bdf : String) : Prop :=
  Listed bdf drm.entries ∨ ∀ entry ∈ drm.entries, entry.isCard = false

/-- **The path** is that of the device's card, or there is none, exactly if the card can be found or
there is no card. -/
theorem namesCard_getDrmPath_iff (drm : DrmListing) (bdf : String) :
    NamesCard drm.entries bdf (getDrmPath drm bdf) ↔ Findable drm bdf := by
  constructor
  · intro h
    by_contra hnot
    obtain ⟨hlisted, hcards⟩ := not_or.mp hnot
    rcases searchDrm_of_not_listed hlisted "" with ⟨hnone, -⟩ | ⟨name, hpath⟩
    · exact hcards hnone
    · rw [getDrmPath, hpath] at h
      exact not_namesCard_sys _ _ _ h
  · rintro (h | h)
    · obtain ⟨entry, hmem, hnames, hpath⟩ := searchDrm_of_listed h ""
      exact .inr ⟨entry, hmem, hnames, hpath⟩
    · exact .inl (searchDrm_of_no_card h "")

/-! ## What the operations have to do with -/

/-- A path that begins as another one. -/
def Under (dir path : String) : Prop := ∃ rest, path = dir ++ rest

theorem Under.append {dir : String} (h : Under dir path) (leaf : String) : Under dir (path ++ leaf) := by
  obtain ⟨rest, rfl⟩ := h
  exact ⟨rest ++ leaf, String.append_assoc ..⟩

theorem under_append (dir leaf : String) : Under dir (dir ++ leaf) := ⟨leaf, rfl⟩

/-- A leaf that is cut in two. -/
theorem under_append_of_eq {dir leaf head : String} (rest : String) (h : leaf = head ++ rest) :
    Under (dir ++ head) (dir ++ leaf) :=
  ⟨rest, by rw [h, String.append_assoc]⟩

/-- The paths of a device and a card, and that of the configuration. -/
inductive VfPath (io : FileIo) (cardName bdf path : String) : Prop where
  | config (h : path = io.findResourceFile vgpuConfFile)
  | debugfs (h : Under (debugfsPathOf bdf ++ "/") path)
  | bus (h : Under ("/sys/bus/pci/devices/" ++ bdf ++ "/") path)
  | card (h : Under (devicePathOf cardName ++ "/device") path)

section Touching

variable {io : FileIo} {cardName sriovAdminPath : String} {attrs : AttrFromConfigFile}
  {lmem : UInt64}

/-- A file is read, and without it the run ends. -/
theorem touches_readFile_bind {α : Type} {ok : String → Prop} {path : String}
    {f : Option String → Prog FileState α} (hpath : ok path)
    (hnone : Prog.Within (Touches ok) (f none))
    (hsome : ∀ c, Prog.Within (Touches ok) (f (some c))) :
    Prog.Within (Touches ok) (readFile io path >>= f) := by
  refine Prog.Within.bind (touches_readFile hpath) fun content => ?_
  cases content with
  | none => exact hnone
  | some content => exact hsome content

theorem touches_getFreeLmemSize :
    Prog.Within (Touches (VfPath io cardName bdf)) (getFreeLmemSize io (debugfsPathOf bdf)) := by
  have htile : VfPath io cardName bdf (debugfsPathOf bdf ++ "/tile0/vram_mm") :=
    .debugfs (under_append_of_eq "tile0/vram_mm" (by decide))
  have hvram : VfPath io cardName bdf (debugfsPathOf bdf ++ "/vram0_mm") :=
    .debugfs (under_append_of_eq "vram0_mm" (by decide))
  refine Prog.Within.bind (touches_pathExists htile) fun outcome => ?_
  refine Prog.Within.ite (Prog.Within.pure 0) (Prog.Within.bind (touches_readStream ?_) ?_)
  · split
    · exact htile
    · exact hvram
  · intro content
    cases content with
    | none => exact Prog.Within.pure 0
    | some content => exact Prog.Within.pure _

theorem touches_loadSriovData {data : DeviceSriovInfo} (hbdf : data.bdfAddress = bdf) :
    Prog.Within (Touches (VfPath io cardName bdf)) (loadSriovData io data) := by
  have hspare {leaf : String} (rest : String) (h : leaf = "/" ++ rest) :
      VfPath io cardName bdf (debugfsPathOf data.bdfAddress ++ "/gt0/pf" ++ leaf) := by
    rw [hbdf]
    exact .debugfs ((under_append_of_eq "gt0/pf" (by decide)).append leaf)
  refine Prog.Within.bind (by rw [hbdf]; exact touches_getFreeLmemSize) fun free => ?_
  refine touches_readFile_bind (hspare "lmem_spare" (by decide)) (Prog.Within.pure none) ?_
  intro lmem
  refine touches_readFile_bind (hspare "ggtt_spare" (by decide)) (Prog.Within.pure none) ?_
  intro ggtt
  refine touches_readFile_bind (hspare "doorbells_spare" (by decide)) (Prog.Within.pure none) ?_
  intro doorbell
  refine touches_readFile_bind (hspare "contexts_spare" (by decide)) (Prog.Within.pure none) ?_
  intro context
  refine Prog.Within.bind (touches_ofOption _) fun _ => ?_
  refine Prog.Within.bind (touches_ofOption _) fun _ => ?_
  refine Prog.Within.bind (touches_ofOption _) fun _ => ?_
  exact Prog.Within.bind (touches_ofOption _) fun _ => Prog.Within.pure _

theorem touches_readVfConfigFromFile (deviceId numVfs : UInt32) :
    Prog.Within (Touches (VfPath io cardName bdf)) (readVfConfigFromFile io deviceId numVfs) := by
  refine Prog.Within.bind (touches_fileExists (.config rfl)) fun present => ?_
  refine Prog.Within.ite (Prog.Within.pure none)
    (Prog.Within.bind (touches_readStream (.config rfl)) ?_)
  intro content
  cases content with
  | none => exact Prog.Within.pure none
  | some content => exact Prog.Within.bind (touches_ofOption _) fun _ => Prog.Within.pure _

/-- A directory of scheduling parameters is that of the card, if there is one. -/
def AdminPath (cardName sriovAdminPath : String) : Prop :=
  sriovAdminPath = "" ∨ Under (devicePathOf cardName ++ "/device") sriovAdminPath

/-- The directory of a function. -/
theorem vfPath_debugfsVf (vfNum : Nat) (leaf : String) :
    VfPath io cardName bdf (debugfsVfPathOf (debugfsPathOf bdf) vfNum ++ leaf) :=
  .debugfs (((under_append_of_eq "gt0/vf" (by decide)).append _).append leaf)

/-- The directory of a function's scheduling parameters. -/
theorem vfPath_schedDir (hadmin : AdminPath cardName sriovAdminPath) (vfNum : Nat) (leaf : String) :
    VfPath io cardName bdf ((if sysfsVfProfileOf sriovAdminPath vfNum ≠ "" then
      sysfsVfProfileOf sriovAdminPath vfNum else debugfsVfPathOf (debugfsPathOf bdf) vfNum) ++ leaf) := by
  split
  case isFalse => exact vfPath_debugfsVf vfNum leaf
  case isTrue hne =>
    rw [sysfsVfProfileOf] at hne ⊢
    split
    case isTrue hempty => exact absurd (if_pos hempty) hne
    case isFalse hempty =>
      exact .card ((((hadmin.resolve_left hempty).append _).append _).append _ |>.append leaf)

theorem touches_writeVfAttr (hadmin : AdminPath cardName sriovAdminPath) (vfNum : Nat) :
    Prog.Within (Touches (VfPath io cardName bdf)) (writeVfAttr io
      (sysfsVfProfileOf sriovAdminPath vfNum) (debugfsVfPathOf (debugfsPathOf bdf) vfNum) attrs lmem) := by
  refine touches_chain (touches_writeFiles fun file hmem => ?_) (touches_writeFiles fun file hmem => ?_)
  · rcases List.mem_cons.mp hmem with rfl | hmem
    · exact vfPath_schedDir hadmin vfNum _
    · rw [List.mem_singleton.mp hmem]
      exact vfPath_schedDir hadmin vfNum _
  · rcases List.mem_cons.mp hmem with rfl | hmem
    · exact vfPath_debugfsVf vfNum _
    rcases List.mem_cons.mp hmem with rfl | hmem
    · exact vfPath_debugfsVf vfNum _
    rcases List.mem_cons.mp hmem with rfl | hmem
    · exact vfPath_debugfsVf vfNum _
    · rw [List.mem_singleton.mp hmem]
      exact vfPath_debugfsVf vfNum _

theorem touches_writeVfAttrs (hadmin : AdminPath cardName sriovAdminPath) (vfNums : List Nat) :
    Prog.Within (Touches (VfPath io cardName bdf))
      (writeVfAttrs io sriovAdminPath (debugfsPathOf bdf) attrs lmem vfNums) := by
  induction vfNums with
  | nil => exact Prog.Within.pure 0
  | cons vfNum vfNums ih => exact touches_chain (touches_writeVfAttr hadmin vfNum) ih

theorem touches_writePfSchedParams (hadmin : AdminPath cardName sriovAdminPath) :
    Prog.Within (Touches (VfPath io cardName bdf)) (writePfSchedParams io
      (if decide (sriovAdminPath ≠ "") = true then sriovAdminPath ++ "/pf/profile"
        else debugfsPathOf bdf ++ "/gt0/pf") attrs (sriovAdminPath ≠ "")) := by
  have hdir (leaf : String) : VfPath io cardName bdf
      ((if decide (sriovAdminPath ≠ "") = true then sriovAdminPath ++ "/pf/profile"
        else debugfsPathOf bdf ++ "/gt0/pf") ++ leaf) := by
    split
    case isTrue hne =>
      exact .card (((hadmin.resolve_left (of_decide_eq_true hne)).append _).append leaf)
    case isFalse => exact .debugfs ((under_append_of_eq "gt0/pf" (by decide)).append leaf)
  refine touches_writeFiles fun file hmem => ?_
  rcases List.mem_cons.mp hmem with rfl | hmem
  · exact hdir _
  rcases List.mem_cons.mp hmem with rfl | hmem
  · exact hdir _
  rw [List.mem_singleton.mp hmem]
  by_cases hsysfs : decide (sriovAdminPath ≠ "") = true
  · rw [if_pos hsysfs]
    exact hdir _
  · rw [if_neg hsysfs]
    exact hdir _

/-- The creation touches paths of its own device and card only. -/
theorem touches_createVfInternal (numVfs : UInt32) :
    Prog.Within (Touches (VfPath io cardName bdf))
      (createVfInternal io cardName bdf attrs numVfs lmem) := by
  have hadmin : Under (devicePathOf cardName ++ "/device")
      (devicePathOf cardName ++ "/device/sriov_admin") :=
    under_append_of_eq "/sriov_admin" (by decide)
  rw [createVfInternal, getSriovAdminPath]
  dsimp only
  rw [Prog.bind_assoc]
  refine Prog.Within.bind (touches_fileExists (.card hadmin)) fun present => ?_
  rw [Prog.pure_bind]
  have hpath : AdminPath cardName
      (if present = true then devicePathOf cardName ++ "/device/sriov_admin" else "") := by
    split
    · exact .inr hadmin
    · exact .inl rfl
  refine Prog.Within.bind (touches_chain (touches_writePfSchedParams hpath)
    (touches_writeVfAttrs hpath _)) fun ret => ?_
  refine Prog.Within.ite (Prog.Within.pure false) (Prog.Within.ite ?_ ?_)
  · refine Prog.Within.bind (touches_writeVfAttrs hpath _) fun ret => ?_
    exact Prog.Within.ite (Prog.Within.pure false) Prog.Within.cut
  · refine Prog.Within.bind (touches_writeFiles fun file hmem => ?_) fun ret => Prog.Within.pure _
    rcases List.mem_cons.mp hmem with rfl | hmem
    · exact .card (under_append _ _)
    · rw [List.mem_singleton.mp hmem]
      exact .card (under_append _ _)

/-- The address of a device stays what it is. -/
theorem loadSriovData_bdf {data data' : DeviceSriovInfo} {s t : FileState}
    (h : loadSriovData io data s = (.ret (some data'), t)) : data'.bdfAddress = data.bdfAddress := by
  obtain ⟨-, -, -, -, -, -, hbdf⟩ := loadSriovData_ret h
  exact hbdf

/-- A run goes on with what `loadSriovData` found. -/
theorem touches_loadSriovData_bind {α : Type} {di : DeviceSriovInfo} (hbdf : di.bdfAddress = bdf)
    {f : Option DeviceSriovInfo → Prog FileState α}
    (hnone : Prog.Within (Touches (VfPath io cardName bdf)) (f none))
    (hsome : ∀ data, data.bdfAddress = bdf →
      Prog.Within (Touches (VfPath io cardName bdf)) (f (some data))) :
    Prog.Within (Touches (VfPath io cardName bdf)) (loadSriovData io di >>= f) := by
  intro s
  have hload := @touches_loadSriovData _ io cardName _ hbdf s
  rcases Prog.bind_cases (loadSriovData io di) f s with ⟨data, u, hdata, h⟩ | ⟨u, hu, h⟩ | ⟨u, hu, h⟩
  · rw [hdata] at hload
    rw [h]
    refine IsTrans.trans _ _ _ hload ?_
    cases data with
    | none => exact hnone u
    | some data => exact hsome data ((loadSriovData_bdf hdata).trans hbdf) u
  · rw [hu] at hload
    rw [h]
    exact hload
  · rw [hu] at hload
    rw [h]
    exact hload

/-- **A creation** has to do with the files of its device and card. -/
theorem touches_linCreateVFs (pci : PciAccess) {di : DeviceSriovInfo} (hbdf : di.bdfAddress = bdf) :
    Prog.Within (Touches (VfPath io (getCardNameFromDrmPath di.drmPath) bdf))
      (linCreateVFs io pci di) := by
  have hscaled : di.scaled.bdfAddress = bdf := by
    rw [DeviceSriovInfo.scaled]
    exact hbdf
  refine touches_loadSriovData_bind hscaled (Prog.Within.pure (-1)) fun data hdata => ?_
  refine touches_readFile_bind (.card (under_append _ _)) (Prog.Within.pure (-1)) fun content => ?_
  refine Prog.Within.bind (touches_ofOption _) fun numVfs => ?_
  refine Prog.Within.ite (Prog.Within.pure (-1)) ?_
  cases queryPciDeviceByBdf pci data.bdfAddress with
  | none => exact Prog.Within.cut
  | some info =>
  refine Prog.Within.ite (Prog.Within.pure (-1)) ?_
  refine Prog.Within.bind (touches_readVfConfigFromFile _ _) fun attrs => ?_
  cases attrs with
  | none => exact Prog.Within.pure (-1)
  | some attrs =>
  refine Prog.Within.ite (Prog.Within.pure (-1)) (Prog.Within.ite (Prog.Within.pure (-1)) ?_)
  rw [hdata]
  exact Prog.Within.bind (touches_createVfInternal _) fun _ => Prog.Within.pure _

theorem touches_listFunctions (functions : List Nat) :
    Prog.Within (Touches (VfPath io cardName bdf))
      (listFunctions io (devicePathOf cardName) (debugfsPathOf bdf) functions) := by
  induction functions with
  | nil => exact Prog.Within.pure _
  | cons functionIndex functions ih =>
    refine touches_readFile_bind ?_ (Prog.Within.pure none) fun lmem => ?_
    · split
      · exact .debugfs (under_append_of_eq "gt0/pf/lmem_spare" (by decide))
      · exact vfPath_debugfsVf _ _
    refine Prog.Within.bind (touches_ofOption _) fun size => ?_
    refine Prog.Within.bind (touches_readStream ?_) fun uevent => ?_
    · split
      · exact .card (under_append_of_eq "/uevent" (by decide))
      · exact .card (((under_append_of_eq "/virtfn" (by decide)).append _).append _)
    cases slotNameOf (fileLines (uevent.getD "")) with
    | none => exact Prog.Within.pure none
    | some name => exact Prog.Within.bind ih fun _ => Prog.Within.pure _

/-- **A listing** has to do with the files of its device and card. -/
theorem touches_linListVFs {di : DeviceSriovInfo} (hbdf : di.bdfAddress = bdf) :
    Prog.Within (Touches (VfPath io (getCardNameFromDrmPath di.drmPath) bdf)) (linListVFs io di) := by
  refine touches_loadSriovData_bind hbdf (Prog.Within.pure none) fun data hdata => ?_
  refine touches_readFile_bind ?_ (Prog.Within.pure none) fun content => ?_
  · rw [hdata]
    exact .bus (under_append_of_eq "sriov_numvfs" (by decide))
  refine Prog.Within.ite (Prog.Within.pure none) ?_
  refine Prog.Within.bind (touches_ofOption _) fun numVfs => ?_
  rw [hdata]
  exact touches_listFunctions _

end Touching

/-! ## No other card -/

theorem rtakeWhile_append_slash {xs ys : List Char} (h : '/' ∉ ys) :
    (xs ++ '/' :: ys).rtakeWhile (· ≠ '/') = ys := by
  have hys : ∀ c ∈ ys.reverse, (decide (c ≠ '/')) = true := by
    intro c hc
    refine decide_eq_true fun hslash => h ?_
    rw [← hslash]
    exact List.mem_reverse.mp hc
  rw [List.rtakeWhile, List.reverse_append, List.reverse_cons, List.append_assoc,
    List.takeWhile_append_of_pos hys, List.singleton_append, List.takeWhile_cons_of_neg (by decide),
    List.append_nil, List.reverse_reverse]

/-- The name of a card is that at the end of its path. -/
theorem getCardName_dev {name : String} (hne : name ≠ "") (hslash : '/' ∉ name.toList) :
    getCardNameFromDrmPath ("/dev/dri/" ++ name) = name := by
  have hdir : "/dev/dri/".toList = "/dev/dri".toList ++ ['/'] := by decide
  have hlist : ("/dev/dri/" ++ name).toList = "/dev/dri".toList ++ '/' :: name.toList := by
    rw [String.toList_append, hdir, List.append_assoc, List.singleton_append]
  have hlength : name.toList.length < ("/dev/dri".toList ++ '/' :: name.toList).length := by
    rw [List.length_append, List.length_cons]
    omega
  have hnil : name.toList ≠ [] := fun h => hne (String.toList_inj.mp h)
  rw [getCardNameFromDrmPath, hlist, rtakeWhile_append_slash hslash, if_pos ⟨hlength, hnil⟩,
    String.ofList_toList]

theorem getCardName_empty : getCardNameFromDrmPath "" = "" := by decide +kernel

/-- What comes before the first slash. -/
theorem eq_of_append_slash {xs ys as bs : List Char} (hxs : '/' ∉ xs) (hys : '/' ∉ ys)
    (h : xs ++ '/' :: as = ys ++ '/' :: bs) : xs = ys := by
  have hnil {us vs zs cs ds : List Char} (hus : '/' ∉ us) (heq : us = vs ++ zs)
      (hzs : '/' :: cs = zs ++ '/' :: ds) : us = vs := by
    cases zs with
    | nil => rw [heq, List.append_nil]
    | cons z zs =>
      obtain ⟨rfl, -⟩ := List.cons.inj hzs
      refine absurd ?_ hus
      rw [heq]
      exact List.mem_append_right _ List.mem_cons_self
  rcases List.append_eq_append_iff.mp h with ⟨zs, heq, hzs⟩ | ⟨zs, heq, hzs⟩
  · exact (hnil hys heq hzs).symm
  · exact hnil hxs heq hzs

/-- A path of a card is that of an entry only if the entry has the card's name, or the card has
none. -/
theorem name_eq_of_under {cardName : String} {entry : DrmEntry}
    (hcard : '/' ∉ cardName.toList) (hdevice : Under (devicePathOf cardName ++ "/device") path)
    (hentry : Under ("/sys/class/drm/" ++ entry.name ++ "/") path) : entry.name = cardName := by
  obtain ⟨rest, rfl⟩ := hdevice
  obtain ⟨rest', h⟩ := hentry
  have hslash : "/".toList = ['/'] := by decide
  have hleaf : "/device".toList = '/' :: "device".toList := by decide
  have hlist := congrArg String.toList h
  rw [devicePathOf] at hlist
  simp only [String.toList_append, List.append_assoc, hslash, hleaf, List.cons_append,
    List.nil_append] at hlist
  have htail := List.append_cancel_left hlist
  exact String.toList_inj.mp (eq_of_append_slash entry.noSlash hcard htail.symm)

/-- A path that an operation has to do with: it is that of the configuration or of the device, or is
in `/sys/class/drm`, but not in the directory of an entry that is not the device's card. -/
def OwnPath (io : FileIo) (drm : DrmListing) (bdf path : String) : Prop :=
  path = io.findResourceFile vgpuConfFile ∨ Under (debugfsPathOf bdf ++ "/") path ∨
    Under ("/sys/bus/pci/devices/" ++ bdf ++ "/") path ∨
      (Under "/sys/class/drm/" path ∧ ∀ entry ∈ drm.entries,
        Under ("/sys/class/drm/" ++ entry.name ++ "/") path → entry.Names bdf)

/-- An entry is known by its name. -/
theorem DrmListing.entry_inj (drm : DrmListing) {entry entry' : DrmEntry}
    (hmem : entry ∈ drm.entries) (hmem' : entry' ∈ drm.entries) (h : entry.name = entry'.name) :
    entry = entry' :=
  List.inj_on_of_nodup_map drm.nodup hmem hmem' h

/-- **The paths of a device and the card that was found** are its own. -/
theorem ownPath_of_vfPath {io : FileIo} {drm : DrmListing} (hfind : Findable drm bdf)
    (h : VfPath io (getCardNameFromDrmPath (getDrmPath drm bdf)) bdf path) :
    OwnPath io drm bdf path := by
  cases h with
  | config h => exact .inl h
  | debugfs h => exact .inr (.inl h)
  | bus h => exact .inr (.inr (.inl h))
  | card h =>
    refine .inr (.inr (.inr ⟨?_, fun entry hmem hentry => ?_⟩))
    · obtain ⟨rest, rfl⟩ := h
      rw [devicePathOf]
      exact ((under_append _ _).append _).append _
    · rcases (namesCard_getDrmPath_iff drm bdf).mpr hfind with hnone | ⟨card, hcard, hnames, hpath⟩
      · -- no card has been found, and no entry is without a name
        rw [hnone, getCardName_empty] at h
        exact absurd (name_eq_of_under (by decide) h hentry) entry.name_ne
      · rw [hpath, getCardName_dev card.name_ne card.noSlash] at h
        have hname := name_eq_of_under card.noSlash h hentry
        rw [drm.entry_inj hmem hcard hname]
        exact hnames

/-- What an operation has done. -/
def OwnAccesses (io : FileIo) (drm : DrmListing) (bdf : String) (t : FileState) : Prop :=
  ∀ event ∈ t.trace, OwnPath io drm bdf event.path

theorem ownAccesses_of_within {io : FileIo} {drm : DrmListing} {α : Type} {m : Prog FileState α}
    (hfind : Findable drm bdf) (contents : String → String)
    (h : Prog.Within (Touches (VfPath io (getCardNameFromDrmPath (getDrmPath drm bdf)) bdf)) m) :
    OwnAccesses io drm bdf (m ⟨contents, []⟩).2 := by
  obtain ⟨events, htrace, hevents⟩ := h ⟨contents, []⟩
  intro event hmem
  rw [htrace, List.nil_append] at hmem
  exact ownPath_of_vfPath hfind (hevents event hmem)

/-- **The card of a device.** The path is as promised, and the operations on virtual functions have
to do with no other card, exactly if the card can be found or there is no card. -/
theorem getDrmPath_names_iff (drm : DrmListing) (bdf : String) :
    (NamesCard drm.entries bdf (getDrmPath drm bdf) ∧
      ∀ (io : FileIo) (pci : PciAccess) (contents : String → String) (di : DeviceSriovInfo),
        di.bdfAddress = bdf → di.drmPath = getDrmPath drm bdf →
          OwnAccesses io drm bdf (linCreateVFs io pci di ⟨contents, []⟩).2 ∧
            OwnAccesses io drm bdf (linListVFs io di ⟨contents, []⟩).2) ↔ Findable drm bdf := by
  refine ⟨fun h => (namesCard_getDrmPath_iff drm bdf).mp h.1, fun hfind =>
    ⟨(namesCard_getDrmPath_iff drm bdf).mpr hfind, fun io pci contents di hbdf hpath => ⟨?_, ?_⟩⟩⟩
  · refine ownAccesses_of_within hfind contents ?_
    rw [← hpath]
    exact touches_linCreateVFs pci hbdf
  · refine ownAccesses_of_within hfind contents ?_
    rw [← hpath]
    exact touches_linListVFs hbdf

/-- The card of another device. -/
def otherCard : DrmListing where
  entries := [⟨"card0", .leadsTo "../../../0000:04:00.0", by decide, by decide⟩]
  nodup := List.nodup_singleton _

/-- A device without a card. -/
def strayDevice : DeviceSriovInfo :=
  { sampleVfDevice 16 with drmPath := getDrmPath otherCard "0000:03:00.0" }

/-- The device without a card is given that of the other one, whose number of functions a creation
then changes. -/
theorem getDrmPath_names_other :
    ¬NamesCard otherCard.entries "0000:03:00.0" (getDrmPath otherCard "0000:03:00.0") ∧
      FileEvent.written "/sys/class/drm/card0/device/sriov_numvfs" "2" .taken ∈
        (linCreateVFs sampleIo samplePci strayDevice sampleStart).2.trace := by
  have hpath : getDrmPath otherCard "0000:03:00.0" = "/sys/class/drm/" ++ "card0" := by
    decide +kernel
  refine ⟨?_, by decide +kernel⟩
  rw [hpath]
  exact not_namesCard_sys _ _ _

end XpuManager
