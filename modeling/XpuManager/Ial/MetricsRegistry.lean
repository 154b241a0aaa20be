import XpuManager.Ial.GlobMatch
import XpuManager.Ial.MetricGroup
import XpuManager.Lib.KeepFirst

/-! # The registry of metrics

Names, aliases and groups of the metrics (`ial/cmn/metrics`) and the two ways to select some of
them (`ial/cmn/metrics_registry.cpp`): by a mask of groups, and by a list of tokens. -/

namespace XpuManager

open MetricGroup

/-- A metric by its name, with its other names and its groups. -/
structure QueryMetric where
  name : Text
  aliases : List Text := []
  groups : MetricGroup
  deriving DecidableEq

/-! ## The registry -/

def getIdentityMetrics : List QueryMetric :=
  [ { name := "timestamp".toList, groups := IDENTITY },
    { name := "name".toList, aliases := ["gpu_name".toList], groups := IDENTITY },
    { name := "index".toList, aliases := ["gpu_index".toList], groups := IDENTITY },
    { name := "uuid".toList, aliases := ["gpu_uuid".toList], groups := IDENTITY },
    { name := "serial".toList, aliases := ["gpu_serial".toList], groups := IDENTITY },
    { name := "driver_version".toList, groups := IDENTITY },
    { name := "vbios_version".toList, groups := IDENTITY },
    { name := "pci.bus_id".toList, aliases := ["gpu_bus_id".toList], groups := IDENTITY ||| PCI },
    { name := "pci.device_id".toList, groups := IDENTITY ||| PCI },
    { name := "pci.sub_device_id".toList, groups := IDENTITY ||| PCI } ]

def getTemperatureMetrics : List QueryMetric :=
  [ { name := "temperature.gpu".toList, groups := TEMPERATURE },
    { name := "temperature.memory".toList, groups := TEMPERATURE } ]

def getUtilizationMetrics : List QueryMetric :=
  [ { name := "utilization.gpu".toList, groups := UTILIZATION },
    { name := "utilization.compute".toList
      aliases := ["utilization.compute.single".toList, "utilization.compute.group".toList]
      groups := UTILIZATION },
    { name := "utilization.render".toList
      aliases := ["utilization.render.single".toList, "utilization.render.group".toList]
      groups := UTILIZATION },
    { name := "utilization.media".toList
      aliases :=
        [ "utilization.media.decode.single".toList, "utilization.media.encode.single".toList,
          "utilization.media.enhancement.single".toList, "utilization.media.group".toList ]
      groups := UTILIZATION },
    { name := "utilization.copy".toList
      aliases := ["utilization.copy.single".toList, "utilization.copy.group".toList]
      groups := UTILIZATION },
    { name := "utilization.memory".toList, groups := MEMORY ||| UTILIZATION } ]

def getPciMetrics : List QueryMetric :=
  [ { name := "pcie.link.gen.max".toList, groups := PCI },
    { name := "pcie.link.width.max".toList, groups := PCI },
    { name := "pcie.link.gen.current".toList, groups := PCI },
    { name := "pcie.link.width.current".toList, groups := PCI },
    { name := "pcie.tx.throughput".toList, groups := PCI },
    { name := "pcie.rx.throughput".toList, groups := PCI },
    { name := "pcie.replay.counter".toList, groups := PCI },
    { name := "pcie.rx.throughput.kbs".toList, groups := PCI },
    { name := "pcie.tx.throughput.kbs".toList, groups := PCI } ]

def getEuArrayMetrics : List QueryMetric :=
  [ { name := "eu.active".toList, groups := EU_ARRAY ||| UTILIZATION },
    { name := "eu.stall".toList, groups := EU_ARRAY ||| UTILIZATION },
    { name := "eu.idle".toList, groups := EU_ARRAY ||| UTILIZATION } ]

def getFanMetrics : List QueryMetric :=
  [{ name := "fan.speed".toList, groups := FAN }]

def getMemoryMetrics : List QueryMetric :=
  [ { name := "memory.total".toList, groups := MEMORY },
    { name := "memory.used".toList, groups := MEMORY },
    { name := "memory.free".toList, groups := MEMORY },
    { name := "memory.read.bandwidth".toList, groups := MEMORY },
    { name := "memory.write.bandwidth".toList, groups := MEMORY },
    { name := "memory.bandwidth.utilization".toList, groups := MEMORY } ]

def getPowerMetrics : List QueryMetric :=
  [ { name := "power.draw".toList, groups := POWER },
    { name := "power.draw.gpu".toList, groups := POWER },
    { name := "energy.consumed".toList, groups := POWER },
    { name := "power.limit".toList
      aliases := ["power.management.limit".toList, "power.management.limit.default".toList]
      groups := POWER },
    { name := "power.max_limit".toList, groups := POWER } ]

def getEccMetrics : List QueryMetric :=
  [ { name := "ecc.mode.current".toList, groups := ECC },
    { name := "ecc.errors.corrected.aggregate.total".toList, groups := ECC },
    { name := "ecc.errors.uncorrected.aggregate.total".toList, groups := ECC },
    { name := "ecc.errors.aggregate.total".toList, groups := ECC },
    { name := "ras.reset".toList, groups := ECC },
    { name := "ras.programming.errors".toList, groups := ECC },
    { name := "ras.driver.errors".toList, groups := ECC },
    { name := "ras.cache.errors.correctable".toList, groups := ECC },
    { name := "ras.cache.errors.uncorrectable".toList, groups := ECC },
    { name := "ras.non_compute.errors.total".toList, groups := ECC } ]

def getClockMetrics : List QueryMetric :=
  [ { name := "clocks.current.graphics".toList
      aliases := ["clocks.current.sm".toList, "clocks.gr".toList]
      groups := CLOCK },
    { name := "clocks.current.media".toList
      aliases := ["clocks.current.video".toList, "clocks.mem".toList]
      groups := CLOCK },
    { name := "clocks.throttle.reason".toList, groups := CLOCK },
    { name := "clocks.max.graphics".toList, aliases := ["clocks.max.sm".toList], groups := CLOCK },
    { name := "clocks.max.media".toList, aliases := ["clocks.max.video".toList], groups := CLOCK } ]

/-- The registry of the metrics that can be queried. -/
def getQueryMetrics : List QueryMetric :=
  [ getIdentityMetrics, getTemperatureMetrics, getUtilizationMetrics, getPciMetrics,
    getEuArrayMetrics, getFanMetrics, getMemoryMetrics, getPowerMetrics, getEccMetrics,
    getClockMetrics ].flatten

/-- No two metrics have one name. -/
theorem nodup_getQueryMetrics : (getQueryMetrics.map QueryMetric.name).Nodup := by
  decide

/-! ## Selections -/

/-- The metrics of the groups of a mask. -/
def getMetricsByGroup (allMetrics : List QueryMetric) (mask : MetricGroup) : List QueryMetric :=
  if mask = NONE then []
  else if mask = ALL then allMetrics
  else allMetrics.filter fun f => hasGroup f.groups mask

/-- Two texts are one, but for the case. -/
def iequal (a b : Text) : Bool := Text.lower a = Text.lower b

/-- A metric is added unless it is there. -/
def addUnique (result : List QueryMetric) (f : QueryMetric) : List QueryMetric :=
  if result.all fun r => r.name ≠ f.name then result ++ [f] else result

/-- The first metric that goes by the name. -/
def findInAll (allMetrics : List QueryMetric) (name : Text) : Option QueryMetric :=
  allMetrics.find? fun f => iequal f.name name || f.aliases.any (iequal · name)

/-- What one token adds to the result. -/
def resolveToken (allMetrics result : List QueryMetric) (token : Text) : List QueryMetric :=
  if token.isEmpty then result
  else if token.any fun c => c = '*' || c = '?' then
    allMetrics.foldl
      (fun result f =>
        if globMatch token f.name || f.aliases.any (globMatch token ·) then addUnique result f
        else result)
      result
  else if token.contains '.' then
    match findInAll allMetrics token with
    | some f => addUnique result f
    | none => result
  else
    let mask := parseGroupMask token
    if mask ≠ NONE then
      let matchAll : Bool := mask = ALL
      allMetrics.foldl
        (fun result f => if matchAll || hasGroup f.groups mask then addUnique result f else result)
        result
    else
      match findInAll allMetrics token with
      | some f => addUnique result f
      | none => result

/-- The metrics that a query selects. An empty query has one empty token here, which adds nothing. -/
def resolveQuery (allMetrics : List QueryMetric) (csv : Text) : List QueryMetric :=
  (csv.splitOn ',').foldl (fun result piece => resolveToken allMetrics result (Text.trim piece)) []

/-! ## What a token stands for -/

/-- The metrics that a token stands for. -/
def tokenMetrics (allMetrics : List QueryMetric) (token : Text) : List QueryMetric :=
  if token.isEmpty then []
  else if token.any fun c => c = '*' || c = '?' then
    allMetrics.filter fun f => globMatch token f.name || f.aliases.any (globMatch token ·)
  else if token.contains '.' ∨ parseGroupMask token = NONE then (findInAll allMetrics token).toList
  else allMetrics.filter fun f => parseGroupMask token = ALL || hasGroup f.groups (parseGroupMask token)

/-- The tokens of a query, without what does not matter about them. -/
def tokenForms (csv : Text) : List Text :=
  ((csv.splitOn ',').map fun piece => Text.lower (Text.trim piece)).filter (· ≠ [])

section

variable {allMetrics result : List QueryMetric} {csv csv' token a b : Text} {f g : QueryMetric}

theorem addUnique_eq_keepFirst : addUnique = keepFirst QueryMetric.name := by
  funext result f
  have hall : (result.all fun r => r.name ≠ f.name) = true ↔ f.name ∉ result.map QueryMetric.name := by
    simp only [List.all_eq_true, decide_eq_true_eq, List.mem_map, not_exists, not_and, ne_eq]
  rw [addUnique, keepFirst]
  by_cases h : f.name ∈ result.map QueryMetric.name
  · rw [if_pos h, if_neg (fun h' => hall.mp h' h)]
  · rw [if_neg h, if_pos (hall.mpr h)]

/-- A token adds the metrics that it stands for, one by one. -/
theorem resolveToken_eq (allMetrics result : List QueryMetric) (token : Text) :
    resolveToken allMetrics result token = (tokenMetrics allMetrics token).foldl addUnique result := by
  have hfind : (match findInAll allMetrics token with
      | some f => addUnique result f
      | none => result) = (findInAll allMetrics token).toList.foldl addUnique result := by
    cases findInAll allMetrics token <;> rfl
  rw [resolveToken, tokenMetrics]
  by_cases hempty : token.isEmpty = true
  · rw [if_pos hempty, if_pos hempty]
    rfl
  · rw [if_neg hempty, if_neg hempty]
    split
    case isTrue => rw [List.foldl_filter]
    case isFalse =>
      by_cases hdot : token.contains '.' = true
      · rw [if_pos hdot, if_pos (.inl hdot), hfind]
      · rw [if_neg hdot, hfind]
        by_cases hmask : parseGroupMask token = NONE
        · rw [if_neg (not_not_intro hmask), if_pos (Or.inr hmask)]
        · rw [if_pos hmask, if_neg (not_or.mpr ⟨hdot, hmask⟩), List.foldl_filter]

/-- A query is the metrics of its tokens, the first of each name. -/
theorem resolveQuery_eq (allMetrics : List QueryMetric) (csv : Text) :
    resolveQuery allMetrics csv =
      ((csv.splitOn ',').flatMap fun piece => tokenMetrics allMetrics (Text.trim piece)).foldl
        (keepFirst QueryMetric.name) [] := by
  rw [resolveQuery, List.foldl_flatMap, ← addUnique_eq_keepFirst]
  simp only [resolveToken_eq]

theorem tokenMetrics_subset : tokenMetrics allMetrics token ⊆ allMetrics := by
  rw [tokenMetrics]
  split
  · exact List.nil_subset _
  · split
    · exact List.filter_subset_self _
    · split
      · intro f hf
        exact List.mem_of_find?_eq_some (Option.mem_toList.mp hf)
      · exact List.filter_subset_self _

/-- Names tell the metrics of a registry apart. -/
theorem eq_of_name_eq (hdistinct : (allMetrics.map QueryMetric.name).Nodup) (hf : f ∈ allMetrics)
    (hg : g ∈ allMetrics) (h : f.name = g.name) : f = g :=
  List.inj_on_of_nodup_map hdistinct hf hg h

theorem mem_resolveQuery_iff (hdistinct : (allMetrics.map QueryMetric.name).Nodup) :
    f ∈ resolveQuery allMetrics csv ↔
      ∃ piece ∈ csv.splitOn ',', f ∈ tokenMetrics allMetrics (Text.trim piece) := by
  have hsubset {g : QueryMetric} (hg : g ∈ (csv.splitOn ',').flatMap fun piece =>
      tokenMetrics allMetrics (Text.trim piece)) : g ∈ allMetrics := by
    obtain ⟨piece, -, hpiece⟩ := List.mem_flatMap.mp hg
    exact tokenMetrics_subset hpiece
  rw [resolveQuery_eq, mem_foldl_keepFirst_iff, List.mem_flatMap]
  · simp
  · intro g hg g' hg' hname
    rw [List.nil_append] at hg hg'
    exact eq_of_name_eq hdistinct (hsubset hg) (hsubset hg') hname

theorem resolveQuery_subset : resolveQuery allMetrics csv ⊆ allMetrics := by
  intro f hf
  rw [resolveQuery_eq] at hf
  obtain ⟨piece, -, hpiece⟩ := List.mem_flatMap.mp
    ((mem_of_mem_foldl_keepFirst hf).resolve_left List.not_mem_nil)
  exact tokenMetrics_subset hpiece

/-! ## Letter case and blanks -/

theorem iequal_lower : iequal a (Text.lower b) = iequal a b := by
  rw [iequal, iequal, Text.lower_lower]

theorem findInAll_lower : findInAll allMetrics (Text.lower token) = findInAll allMetrics token := by
  simp only [findInAll, iequal_lower]

theorem parseGroupMask_lower (htoken : ',' ∉ token) :
    parseGroupMask (Text.lower token) = parseGroupMask token := by
  have hlower : ',' ∉ Text.lower token := fun h => htoken ((Text.mem_lower_iff (by decide)).mp h)
  rw [parseGroupMask_token hlower, parseGroupMask_token htoken, Text.trim_lower, tokenMask_lower]

/-- A token stands for the same metrics in either case. -/
theorem tokenMetrics_lower (htoken : ',' ∉ token) :
    tokenMetrics allMetrics (Text.lower token) = tokenMetrics allMetrics token := by
  have hempty : (Text.lower token).isEmpty = token.isEmpty := by cases token <;> rfl
  have hwild : ((Text.lower token).any fun c => c = '*' || c = '?') =
      token.any fun c => c = '*' || c = '?' := by
    have hstar (c : Char) : c.toLower = '*' ↔ c = '*' := Text.toLower_eq_iff (by decide)
    have hquestion (c : Char) : c.toLower = '?' ↔ c = '?' := Text.toLower_eq_iff (by decide)
    simp only [Text.lower, List.any_map, Function.comp_def, hstar, hquestion]
  have hdot : (Text.lower token).contains '.' = token.contains '.' :=
    contains_lower (by decide) token
  simp only [tokenMetrics, hempty, hwild, hdot, globMatch_lower, findInAll_lower,
    parseGroupMask_lower htoken]

theorem not_mem_trim {c : Char} (h : c ∉ token) : c ∉ Text.trim token := fun hmem =>
  h ((List.dropWhile_suffix _).subset ((List.rdropWhile_prefix ..).subset hmem))

/-- The metrics of a query are those of the forms of its tokens. -/
theorem mem_resolveQuery_iff_forms (hdistinct : (allMetrics.map QueryMetric.name).Nodup) :
    f ∈ resolveQuery allMetrics csv ↔ ∃ form ∈ tokenForms csv, f ∈ tokenMetrics allMetrics form := by
  have hlower : ∀ piece ∈ csv.splitOn ',',
      tokenMetrics allMetrics (Text.lower (Text.trim piece)) =
        tokenMetrics allMetrics (Text.trim piece) := fun piece hpiece =>
    tokenMetrics_lower (not_mem_trim (Text.not_mem_of_mem_splitOn hpiece))
  rw [mem_resolveQuery_iff hdistinct]
  constructor
  · rintro ⟨piece, hpiece, hf⟩
    rw [← hlower piece hpiece] at hf
    refine ⟨Text.lower (Text.trim piece), List.mem_filter.mpr ⟨List.mem_map_of_mem hpiece, ?_⟩, hf⟩
    -- the empty token stands for nothing
    refine decide_eq_true fun hempty => ?_
    rw [hempty] at hf
    exact List.not_mem_nil hf
  · rintro ⟨form, hform, hf⟩
    obtain ⟨piece, hpiece, rfl⟩ := List.mem_map.mp (List.mem_of_mem_filter hform)
    rw [hlower piece hpiece] at hf
    exact ⟨piece, hpiece, hf⟩

/-- Two queries select together what the first selects, and then what only the second selects. No
metric is selected twice. Two queries with the same token forms select the same metrics. -/
theorem resolveQuery_laws (allMetrics : List QueryMetric)
    (hdistinct : (allMetrics.map QueryMetric.name).Nodup) :
    (∀ a b, resolveQuery allMetrics (a ++ ',' :: b) =
      resolveQuery allMetrics a ++
        (resolveQuery allMetrics b).filter (· ∉ resolveQuery allMetrics a)) ∧
    (∀ csv, (resolveQuery allMetrics csv).Nodup) ∧
    (∀ csv csv', (∀ form, form ∈ tokenForms csv ↔ form ∈ tokenForms csv') →
      ∀ f, f ∈ resolveQuery allMetrics csv ↔ f ∈ resolveQuery allMetrics csv') := by
  refine ⟨fun a b => ?_, fun csv => ?_, fun csv csv' hforms f => ?_⟩
  · have hjoin : resolveQuery allMetrics (a ++ ',' :: b) =
        ((b.splitOn ',').flatMap fun piece => tokenMetrics allMetrics (Text.trim piece)).foldl
          (keepFirst QueryMetric.name) (resolveQuery allMetrics a) := by
      rw [resolveQuery_eq, resolveQuery_eq, List.splitOn_append_cons_self, List.flatMap_append,
        List.foldl_append]
    rw [hjoin, foldl_keepFirst, ← resolveQuery_eq]
    congr 1
    refine List.filter_congr fun f hf => decide_eq_decide.mpr (not_congr ?_)
    constructor
    · intro hname
      obtain ⟨g, hg, hname⟩ := List.mem_map.mp hname
      have := eq_of_name_eq hdistinct (resolveQuery_subset hg) (resolveQuery_subset hf) hname
      exact this ▸ hg
    · exact List.mem_map_of_mem
  · have hnames : ((resolveQuery allMetrics csv).map QueryMetric.name).Nodup := by
      rw [resolveQuery_eq]
      exact nodup_foldl_keepFirst List.nodup_nil
    exact hnames.of_map
  · rw [mem_resolveQuery_iff_forms hdistinct, mem_resolveQuery_iff_forms hdistinct]
    simp only [hforms]

theorem resolveQuery_laws_registry :
    (∀ a b, resolveQuery getQueryMetrics (a ++ ',' :: b) =
      resolveQuery getQueryMetrics a ++
        (resolveQuery getQueryMetrics b).filter (· ∉ resolveQuery getQueryMetrics a)) ∧
    (∀ csv, (resolveQuery getQueryMetrics csv).Nodup) ∧
    (∀ csv csv', (∀ form, form ∈ tokenForms csv ↔ form ∈ tokenForms csv') →
      ∀ f, f ∈ resolveQuery getQueryMetrics csv ↔ f ∈ resolveQuery getQueryMetrics csv') :=
  resolveQuery_laws getQueryMetrics nodup_getQueryMetrics

/-! ## Queries of group names -/

/-- The characters of a token that stands for groups are characters of the table. -/
theorem not_mem_of_tokenMask_ne_NONE {d : Char} (hd : d.toNat < 65) (h : tokenMask token ≠ NONE) :
    d ∉ token := by
  have htable : ∀ entry ∈ GROUP_TABLE, ∀ c ∈ entry.name ++ entry.shortcut, 65 ≤ c.toNat := by
    have hall : (GROUP_TABLE.all fun entry =>
        (entry.name ++ entry.shortcut).all fun c => 65 ≤ c.toNat) = true := by
      decide
    intro entry hentry c hc
    exact of_decide_eq_true (List.all_eq_true.mp (List.all_eq_true.mp hall entry hentry) c hc)
  have hnot {entry : MetricGroupEntry} (hentry : entry ∈ GROUP_TABLE) {text : Text}
      (htext : text ⊆ entry.name ++ entry.shortcut) : d ∉ text := fun hmem =>
    absurd (htable entry hentry d (htext hmem)) (Nat.not_le.mpr hd)
  have hlower {text other : Text} (heq : itextEq text other = true) (hmem : d ∈ other) : d ∈ text := by
    rw [← Text.mem_lower_iff (.inl hd), itextEq_iff.mp heq, Text.mem_lower_iff (.inl hd)]
    exact hmem
  intro hmem
  apply h
  rw [tokenMask, tokenGroups]
  split
  case isTrue hletters =>
    -- the token would be made of shortcuts
    obtain ⟨entry, hentry, hletter⟩ := List.any_eq_true.mp
      (List.all_eq_true.mp (Bool.and_eq_true_iff.mp hletters).2 d hmem)
    obtain ⟨letter, hhead, heq⟩ := (Option.any_eq_true _ _).mp hletter
    rw [icharEq_iff, Text.toLower_toLower, (Text.toLower_eq_iff (.inl hd)).mpr rfl,
      Text.toLower_eq_iff (.inl hd)] at heq
    subst heq
    exact absurd (List.mem_of_mem_head? hhead) (hnot hentry (List.subset_append_right _ _))
  case isFalse =>
    -- the token would be a name or a shortcut
    have hnamed : (GROUP_TABLE.filter fun entry =>
        entry.shortcutMatch token || entry.nameMatch token) = [] := by
      refine List.filter_eq_nil_iff.mpr fun entry hentry hmatch => ?_
      rcases Bool.or_eq_true_iff.mp hmatch with hshortcut | hname
      · exact hnot hentry (List.subset_append_right _ _)
          (hlower (Bool.and_eq_true_iff.mp hshortcut).2 hmem)
      · exact hnot hentry (List.subset_append_left _ _) (hlower hname hmem)
    rw [hnamed]
    rfl

theorem mem_getMetricsByGroup_iff {mask : MetricGroup} :
    f ∈ getMetricsByGroup allMetrics mask ↔
      f ∈ allMetrics ∧ mask ≠ NONE ∧ (mask = ALL ∨ hasGroup f.groups mask = true) := by
  rw [getMetricsByGroup]
  split
  case isTrue hnone => simp [hnone]
  case isFalse hnone =>
    split
    case isTrue hall => exact ⟨fun hf => ⟨hf, hnone, .inl hall⟩, And.left⟩
    case isFalse hall => simp [hnone, hall, List.mem_filter]

/-- A token that stands for groups stands for what its mask selects. -/
theorem mem_tokenMetrics_iff_of_groups {piece : Text} (hpiece : ',' ∉ piece)
    (h : parseGroupMask piece ≠ NONE) :
    f ∈ tokenMetrics allMetrics (Text.trim piece) ↔
      f ∈ getMetricsByGroup allMetrics (parseGroupMask piece) := by
  have hmask : parseGroupMask (Text.trim piece) = parseGroupMask piece := by
    rw [parseGroupMask_token (not_mem_trim hpiece), parseGroupMask_token hpiece, Text.trim_trim]
  have htoken : tokenMask (Text.trim piece) ≠ NONE := by rwa [← parseGroupMask_token hpiece]
  have hempty : ¬ (Text.trim piece).isEmpty = true := fun hempty => by
    rw [List.isEmpty_iff.mp hempty] at htoken
    exact htoken tokenMask_nil
  have hwild : ¬ ((Text.trim piece).any fun c => c = '*' || c = '?') = true := fun hwild => by
    obtain ⟨c, hc, hspecial⟩ := List.any_eq_true.mp hwild
    simp only [Bool.or_eq_true, decide_eq_true_eq] at hspecial
    rcases hspecial with rfl | rfl
    · exact not_mem_of_tokenMask_ne_NONE (by decide) htoken hc
    · exact not_mem_of_tokenMask_ne_NONE (by decide) htoken hc
  have hdot : ¬ (Text.trim piece).contains '.' = true := fun hdot =>
    not_mem_of_tokenMask_ne_NONE (by decide) htoken (List.contains_iff_mem.mp hdot)
  rw [tokenMetrics, if_neg hempty, if_neg hwild, hmask, if_neg (not_or.mpr ⟨hdot, h⟩),
    mem_getMetricsByGroup_iff, List.mem_filter]
  simp [h]

/-- For a list of tokens that each stand for groups, the query selects what the mask of the list
selects, and this mask is the union of the masks of the tokens. -/
theorem resolveQuery_groups (csv : Text)
    (hgroups : ∀ token ∈ csv.splitOn ',', parseGroupMask token ≠ NONE) :
    (∀ f, f ∈ resolveQuery getQueryMetrics csv ↔
      f ∈ getMetricsByGroup getQueryMetrics (parseGroupMask csv)) ∧
    parseGroupMask csv = ((csv.splitOn ',').map parseGroupMask).foldr (· ||| ·) NONE := by
  have hmasks : ∀ mask ∈ (csv.splitOn ',').map parseGroupMask, IsMask mask := by
    intro mask hmask
    obtain ⟨piece, hpiece, rfl⟩ := List.mem_map.mp hmask
    rw [parseGroupMask_token (Text.not_mem_of_mem_splitOn hpiece)]
    exact tokenMask_isMask _
  refine ⟨fun f => ?_, parseGroupMask_splitOn csv⟩
  have hpieces : f ∈ resolveQuery getQueryMetrics csv ↔
      ∃ piece ∈ csv.splitOn ',', f ∈ getQueryMetrics ∧
        (parseGroupMask piece = ALL ∨ hasGroup f.groups (parseGroupMask piece) = true) := by
    rw [mem_resolveQuery_iff nodup_getQueryMetrics]
    refine exists_congr fun piece => and_congr_right fun hpiece => ?_
    rw [mem_tokenMetrics_iff_of_groups (Text.not_mem_of_mem_splitOn hpiece) (hgroups piece hpiece),
      mem_getMetricsByGroup_iff]
    simp [hgroups piece hpiece]
  have hnone : orAll ((csv.splitOn ',').map parseGroupMask) ≠ NONE := by
    obtain ⟨first, pieces, hsplit⟩ := List.exists_cons_of_ne_nil (List.splitOn_ne_nil ',' csv)
    have hfirst : first ∈ csv.splitOn ',' := by simp [hsplit]
    intro h
    exact hgroups first hfirst (orAll_eq_NONE_iff.mp h _ (List.mem_map_of_mem hfirst))
  rw [hpieces, mem_getMetricsByGroup_iff, parseGroupMask_splitOn, orAll_eq_ALL_iff hmasks,
    hasGroup_orAll, List.any_eq_true]
  constructor
  · rintro ⟨piece, hpiece, hf, hall | hgroup⟩
    · exact ⟨hf, hnone, .inl (hall ▸ List.mem_map_of_mem hpiece)⟩
    · exact ⟨hf, hnone, .inr ⟨_, List.mem_map_of_mem hpiece, hgroup⟩⟩
  · rintro ⟨hf, -, hall | ⟨mask, hmask, hgroup⟩⟩
    · obtain ⟨piece, hpiece, hmask⟩ := List.mem_map.mp hall
      exact ⟨piece, hpiece, hf, .inl hmask⟩
    · obtain ⟨piece, hpiece, rfl⟩ := List.mem_map.mp hmask
      exact ⟨piece, hpiece, hf, .inr hgroup⟩

/-- The shorthand `pu` stands for three groups. -/
theorem resolveQuery_groups_shorthand :
    (∀ f, f ∈ resolveQuery getQueryMetrics " pu,Ecc".toList ↔
      f ∈ getMetricsByGroup getQueryMetrics (parseGroupMask " pu,Ecc".toList)) ∧
    parseGroupMask " pu,Ecc".toList =
      ((" pu,Ecc".toList.splitOn ',').map parseGroupMask).foldr (· ||| ·) NONE :=
  resolveQuery_groups " pu,Ecc".toList (by
    intro token htoken
    rw [parseGroupMask_token (Text.not_mem_of_mem_splitOn htoken)]
    have hall : ∀ token ∈ " pu,Ecc".toList.splitOn ',', tokenMask (Text.trim token) ≠ NONE := by
      decide
    exact hall token htoken)

end

end XpuManager
