import XpuManager.Hal.Driver
import XpuManager.Ial.MetricCache
import XpuManager.Lib.Orders

/-! # The engines of each tile

Engine groups belong to the device or to one of its tiles (`hal/core/enginegroup.cpp`). A group of the
device has a sub-device number that means nothing. -/

namespace XpuManager

namespace EngineGroups

open LastWrite

/-! ## The driver -/

/-- The kinds of engine groups. -/
inductive EngineGroupType where
  | all
  | computeAll
  | mediaAll
  | copyAll
  | computeSingle
  | renderSingle
  | mediaDecodeSingle
  | mediaEncodeSingle
  | copySingle
  | mediaEnhancementSingle
  | threeDSingle
  | threeDRenderComputeAll
  | renderAll
  | threeDAll
  | mediaCodecSingle
  deriving DecidableEq

/-- What the driver says of an engine group. -/
structure EngineProperties where
  type : EngineGroupType
  onSubdevice : Bool
  subdeviceId : UInt32

/-- What the driver answers for an engine group. -/
structure EngineGroup where
  properties : Except ZeError EngineProperties
  activity : Except ZeError EngineSnapshot

abbrev TileActivity := UInt32 → Option EngineSnapshot

/-- The loop of `getEngineActivityPerTile`, which a call that fails ends. -/
def mapActivity (type : EngineGroupType) (tileActivity : TileActivity) :
    List EngineGroup → ZeResult × TileActivity
  | [] => (.success, tileActivity)
  | group :: groups =>
    match group.properties with
    | .error result => (result.1, tileActivity)
    | .ok properties =>
      if properties.type = type then
        match group.activity with
        | .error result => (result.1, tileActivity)
        | .ok stats =>
          mapActivity type (Function.update tileActivity properties.subdeviceId (some stats)) groups
      else mapActivity type tileActivity groups

/-- The activity of the groups of one type, for each tile. -/
def getEngineActivityPerTile (type : EngineGroupType) (groups : List EngineGroup) :
    ZeResult × TileActivity :=
  mapActivity type (fun _ => none) groups

/-! ## What an entry should be -/

variable {type : EngineGroupType} {groups : List EngineGroup} {group : EngineGroup} {t : UInt32}

namespace EngineGroup

/-- A group of a type, and the tile that its properties name. -/
def Names (type : EngineGroupType) (t : UInt32) (onSubdevice : Bool) (group : EngineGroup) : Prop :=
  group.properties = .ok ⟨type, onSubdevice, t⟩

/-- The calls for a group succeed, as far as they are made. -/
def Readable (type : EngineGroupType) (group : EngineGroup) : Prop :=
  ∃ properties, group.properties = .ok properties ∧
    (properties.type = type → ∃ stats, group.activity = .ok stats)

theorem Readable.exists_stats {onSubdevice : Bool} (h : group.Readable type)
    (hnames : group.Names type t onSubdevice) : ∃ stats, group.activity = .ok stats := by
  obtain ⟨properties, hproperties, hactivity⟩ := h
  cases hnames.symm.trans hproperties
  exact hactivity rfl

/-- What a group writes. -/
def write (type : EngineGroupType) (group : EngineGroup) : Option (UInt32 × EngineSnapshot) :=
  match group.properties, group.activity with
  | .ok properties, .ok stats =>
    if properties.type = type then some (properties.subdeviceId, stats) else none
  | _, _ => none

/-- A group writes where it names a tile and its activity is read. -/
theorem write_eq_some_iff {stats : EngineSnapshot} : group.write type = some (t, stats) ↔
    (∃ onSubdevice, group.Names type t onSubdevice) ∧ group.activity = .ok stats := by
  obtain ⟨properties, activity⟩ := group
  rw [write]
  constructor
  · intro h
    split at h
    next properties stats hproperties hactivity =>
      split_ifs at h with htype
      cases h
      obtain ⟨_, onSubdevice, _⟩ := properties
      cases htype
      exact ⟨⟨onSubdevice, hproperties⟩, hactivity⟩
    next => cases h
  · rintro ⟨⟨onSubdevice, hnames⟩, hactivity⟩
    cases hnames
    cases hactivity
    exact if_pos rfl

end EngineGroup

/-- An entry is the activity of one of a tile's own groups. -/
def OwnActivity (type : EngineGroupType) (groups : List EngineGroup) (t : UInt32)
    (entry : Option EngineSnapshot) : Prop :=
  ∃ own ∈ groups, own.Names type t true ∧ ∃ stats, own.activity = .ok stats ∧ entry = some stats

/-- Every tile with a group of its own has the activity of such a group. -/
def ActivityRight (type : EngineGroupType) (groups : List EngineGroup)
    (tileActivity : TileActivity) : Prop :=
  ∀ t, (∃ own ∈ groups, own.Names type t true) → OwnActivity type groups t (tileActivity t)

/-! ## Any order -/

/-- **Spec of `getEngineActivityPerTile`.** -/
theorem mapActivity_eq (h : ∀ group ∈ groups, group.Readable type) (tileActivity : TileActivity) :
    mapActivity type tileActivity groups =
      (.success, lastWrites tileActivity (groups.filterMap (EngineGroup.write type))) := by
  induction groups generalizing tileActivity with
  | nil => rfl
  | cons group groups ih =>
    rw [List.forall_mem_cons] at h
    obtain ⟨⟨properties, hproperties, hactivity⟩, hrest⟩ := h
    rw [mapActivity, hproperties]
    by_cases htype : properties.type = type
    · obtain ⟨stats, hstats⟩ := hactivity htype
      have hwrite : group.write type = some (properties.subdeviceId, stats) :=
        EngineGroup.write_eq_some_iff.mpr
          ⟨⟨properties.onSubdevice, hproperties.trans (by rw [← htype])⟩, hstats⟩
      rw [List.filterMap_cons_some hwrite, hstats]
      exact (if_pos htype).trans (ih hrest _)
    · have hwrite : group.write type = none := by
        rw [Option.eq_none_iff_forall_ne_some]
        rintro ⟨t, stats⟩ hsome
        obtain ⟨⟨_, hnames⟩, -⟩ := EngineGroup.write_eq_some_iff.mp hsome
        cases hproperties.symm.trans hnames
        exact htype rfl
      rw [List.filterMap_cons_none hwrite]
      exact (if_neg htype).trans (ih hrest _)

/-- A success went through every group, so each was readable. -/
theorem readable_of_success {tileActivity tileActivity' : TileActivity}
    (h : mapActivity type tileActivity groups = (.success, tileActivity')) :
    ∀ group ∈ groups, group.Readable type := by
  induction groups generalizing tileActivity with
  | nil => exact nofun
  | cons group groups ih =>
    rw [mapActivity] at h
    rw [List.forall_mem_cons]
    cases hproperties : group.properties with
    | error result =>
      rw [hproperties] at h
      exact absurd (Prod.mk.inj h).1 result.2
    | ok properties =>
      rw [hproperties] at h
      by_cases htype : properties.type = type
      · replace h := (if_pos htype).symm.trans h
        cases hstats : group.activity with
        | error result =>
          rw [hstats] at h
          exact absurd (Prod.mk.inj h).1 result.2
        | ok stats =>
          rw [hstats] at h
          exact ⟨⟨properties, hproperties, fun _ => ⟨stats, hstats⟩⟩, ih h⟩
      · replace h := (if_neg htype).symm.trans h
        exact ⟨⟨properties, hproperties, fun heq => absurd heq htype⟩, ih h⟩

/-- **When every tile has the activity of its own groups**, in whichever order the groups come: exactly
if no group of the device, whose number is that of a tile with a group, has another activity. -/
theorem getEngineActivityPerTile_iff (type : EngineGroupType) (groups : List EngineGroup) :
    (∀ groups' : List EngineGroup, groups'.Perm groups → ∀ tileActivity,
        getEngineActivityPerTile type groups' = (.success, tileActivity) →
        ActivityRight type groups tileActivity) ↔
      ((∀ group ∈ groups, group.Readable type) → ∀ group ∈ groups, ∀ t,
        group.Names type t false → (∃ own ∈ groups, own.Names type t true) →
          ∃ own ∈ groups, own.Names type t true ∧ own.activity = group.activity) := by
  have hrun : (∀ group ∈ groups, group.Readable type) →
      ∀ groups' : List EngineGroup, groups'.Perm groups → getEngineActivityPerTile type groups' =
        (.success, lastWrites (fun _ => none) (groups'.filterMap (EngineGroup.write type))) :=
    fun hall groups' hperm =>
      mapActivity_eq (fun group hmem => hall group (hperm.mem_iff.mp hmem)) _
  constructor
  · intro h hall group hmem t hnames hown
    obtain ⟨stats, hstats⟩ := (hall group hmem).exists_stats hnames
    have hslot := (Orders.forall_perm_lastWrites_iff (P := OwnActivity type groups t)).mp
      fun groups' hperm => h groups' hperm _ (hrun hall groups' hperm) t hown
    obtain ⟨own, hmem', hnames', stats', hstats', heq⟩ := hslot.1 group hmem stats
      (EngineGroup.write_eq_some_iff.mpr ⟨⟨false, hnames⟩, hstats⟩)
    exact ⟨own, hmem', hnames', by rw [hstats, hstats', Option.some.inj heq]⟩
  · intro h groups' hperm tileActivity hsuccess t hown
    have hall : ∀ group ∈ groups, group.Readable type := fun group hmem =>
      readable_of_success hsuccess group (hperm.mem_iff.mpr hmem)
    obtain rfl := (Prod.mk.inj ((hrun hall groups' hperm).symm.trans hsuccess)).2
    refine (Orders.forall_perm_lastWrites_iff (P := OwnActivity type groups t)).mpr
      ⟨fun group hmem stats hwrite => ?_, fun hnone => ?_⟩ groups' hperm
    · obtain ⟨⟨onSubdevice, hnames⟩, hstats⟩ := EngineGroup.write_eq_some_iff.mp hwrite
      cases onSubdevice with
      | true => exact ⟨group, hmem, hnames, stats, hstats, rfl⟩
      | false =>
        obtain ⟨own, hmem', hnames', hsame⟩ := h hall group hmem t hnames hown
        exact ⟨own, hmem', hnames', stats, hsame.trans hstats, rfl⟩
    · obtain ⟨own, hmem, hnames⟩ := hown
      obtain ⟨stats, hstats⟩ := (hall own hmem).exists_stats hnames
      exact absurd (EngineGroup.write_eq_some_iff.mpr ⟨⟨true, hnames⟩, hstats⟩) (hnone own hmem stats)

/-- A group of tile 0, and then one of the device. -/
def mixedGroups : List EngineGroup :=
  [⟨.ok ⟨.computeAll, true, 0⟩, .ok ⟨10, 1⟩⟩, ⟨.ok ⟨.computeAll, false, 0⟩, .ok ⟨30, 1⟩⟩]

/-- Tile 0 has the activity of the device. -/
theorem getEngineActivityPerTile_mixed : ¬∀ (type : EngineGroupType) (groups groups' : List EngineGroup),
    groups'.Perm groups → ∀ tileActivity,
      getEngineActivityPerTile type groups' = (.success, tileActivity) →
      ActivityRight type groups tileActivity := by
  intro h
  obtain ⟨group, hmem, hnames, stats, hstats, hentry⟩ :=
    h .computeAll mixedGroups mixedGroups (List.Perm.refl _) _ rfl 0
      ⟨_, List.mem_cons_self, rfl⟩
  obtain rfl : (⟨30, 1⟩ : EngineSnapshot) = stats := Option.some.inj hentry
  rcases List.mem_cons.mp hmem with rfl | hmem
  · cases hstats
  · rw [List.mem_singleton] at hmem
    subst hmem
    cases hnames

end EngineGroups

end XpuManager
