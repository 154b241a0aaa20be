import Mathlib.Algebra.Order.Field.Rat
import XpuManager.Hal.Driver
import XpuManager.Lib.FirstMatch

/-! # Frequency ranges

A tile's frequency range is set in one domain of its GPU, and read back from one
(`hal/core/frequency.cpp`). Both look for the domain, each with its own calls to the driver. -/

namespace XpuManager

namespace Frequency

open FirstMatch

/-! ## The driver -/

/-- The kinds of frequency domains. -/
inductive FreqDomainType where
  | gpu
  | memory
  | media
  deriving DecidableEq

/-- What the driver says of a frequency domain. -/
structure FreqProperties where
  type : FreqDomainType
  onSubdevice : Bool
  subdeviceId : UInt32

/-- In MHz. -/
structure FreqRange (F : Type) where
  min : F
  max : F

/-- The range that the driver holds for a domain, and what it answers while a range is set and then
while it is read. -/
structure FreqDomain (F : Type) where
  properties : FreqProperties
  range : FreqRange F
  setterProperties : ZeResult
  /-- A call that succeeds stores the range, and one that fails leaves it. -/
  setRange : ZeResult
  getterProperties : ZeResult
  getRange : ZeResult

/-- What the driver answers about the sub-devices. -/
structure TileAnswers where
  countResult : ZeResult
  subdeviceCount : UInt32
  subdeviceProperties : UInt32 → Except ZeError UInt32

/-- The objects that the domains know. -/
structure Parents where
  deviceHandle : Bool
  parentDevice : Bool

/-! ## Tiles -/

/-- The domains that are meant. -/
inductive Choice where
  | all
  | device
  | subdevice (subdeviceId : UInt32)
  deriving DecidableEq

/-- The domain is one of those that are chosen. -/
def Choice.Admits (choice : Choice) (properties : FreqProperties) : Prop :=
  match choice with
  | .all => True
  | .device => ¬properties.onSubdevice
  | .subdevice subdeviceId => properties.onSubdevice ∧ properties.subdeviceId = subdeviceId

instance (choice : Choice) (properties : FreqProperties) : Decidable (choice.Admits properties) := by
  unfold Choice.Admits
  cases choice <;> infer_instance

/-- The domains of a tile. The setter and the getter have a copy of this each. -/
def mapTile (parents : Parents) (answers : TileAnswers) (tileId : UInt32) : Except ZeResult Choice :=
  if parents.deviceHandle ∧ answers.countResult = .success ∧ 0 < answers.subdeviceCount then
    if parents.parentDevice then
      match answers.subdeviceProperties tileId with
      | .error result => .error result.1
      | .ok subdeviceId => .ok (.subdevice subdeviceId)
    else .error .uninitialized
  else if tileId = 0 then .ok .device
  else .error .invalidArgument

variable {F : Type}

namespace FreqDomain

def OfGpu (choice : Choice) (d : FreqDomain F) : Prop :=
  d.properties.type = .gpu ∧ choice.Admits d.properties

instance (choice : Choice) (d : FreqDomain F) : Decidable (d.OfGpu choice) :=
  inferInstanceAs (Decidable (_ ∧ _))

end FreqDomain

/-! ## The setter -/

/-- What the loop over the domains keeps. -/
structure SetState where
  anySuccess : Bool := false
  foundDomain : Bool := false
  lastError : ZeResult := .success

/-- The end of `setFrequencyRange`, where no domain has ended it. -/
def SetState.result (choice : Choice) (st : SetState) : ZeResult :=
  if choice = .all then if st.anySuccess then .success else st.lastError
  else if st.foundDomain then st.lastError
  else .notAvailable

/-- The loop goes on behind a domain. -/
def behind (d : FreqDomain F) (run : ZeResult × List (FreqDomain F)) : ZeResult × List (FreqDomain F) :=
  (run.1, d :: run.2)

/-- The loop of `setFrequencyRange`. -/
def setDomains (choice : Choice) (range : FreqRange F) (st : SetState) :
    List (FreqDomain F) → ZeResult × List (FreqDomain F)
  | [] => (st.result choice, [])
  | d :: domains =>
    if d.setterProperties ≠ .success then
      behind d (setDomains choice range { st with lastError := d.setterProperties } domains)
    else if ¬d.OfGpu choice then behind d (setDomains choice range st domains)
    else if d.setRange = .success then
      if choice ≠ .all then (.success, { d with range := range } :: domains)
      else
        behind { d with range := range }
          (setDomains choice range { st with anySuccess := true, foundDomain := true } domains)
    else
      behind d (setDomains choice range { st with foundDomain := true, lastError := d.setRange } domains)

/-- Sets the frequency range of a tile, or of all. -/
def setFrequencyRange (parents : Parents) (answers : TileAnswers) (range : FreqRange F)
    (subdeviceId : Int32) (domains : List (FreqDomain F)) : ZeResult × List (FreqDomain F) :=
  if subdeviceId < -1 then (.invalidArgument, domains)
  else if subdeviceId = -1 then setDomains .all range {} domains
  else
    match mapTile parents answers subdeviceId.toUInt32 with
    | .error result => (result, domains)
    | .ok choice => setDomains choice range {} domains

section

variable {choice : Choice} {range : FreqRange F} {st : SetState}
  {domains before after : List (FreqDomain F)} {d : FreqDomain F}

/-- A domain of the target that the setter can set. -/
def FreqDomain.Settable (choice : Choice) (d : FreqDomain F) : Prop :=
  d.setterProperties = .success ∧ d.OfGpu choice ∧ d.setRange = .success

/-- **Spec of the loop**, where a domain of the target can be set. -/
theorem setDomains_of_first (hchoice : choice ≠ .all)
    (h : FirstAt (FreqDomain.Settable choice) domains before d after) (st : SetState) :
    setDomains choice range st domains = (.success, before ++ { d with range := range } :: after) := by
  obtain ⟨rfl, ⟨hproperties, hgpu, hset⟩, hbefore⟩ := h
  induction before generalizing st with
  | nil =>
    rw [List.nil_append, setDomains, if_neg (not_not_intro hproperties), if_neg (not_not_intro hgpu),
      if_pos hset, if_pos hchoice]
    rfl
  | cons other before ih =>
    rw [List.forall_mem_cons] at hbefore
    rw [List.cons_append, setDomains]
    split_ifs with hother hgpu' hset'
    · rw [ih _ hbefore.2]
      rfl
    · exact absurd ⟨not_not.mp hother, hgpu', hset'⟩ hbefore.1
    · rw [ih _ hbefore.2]
      rfl
    · rw [ih _ hbefore.2]
      rfl

/-- **Spec of the loop**, where none can. -/
theorem setDomains_of_none (hchoice : choice ≠ .all) (h : ∀ d ∈ domains, ¬d.Settable choice)
    (st : SetState) (hst : st.foundDomain → st.lastError ≠ .success) :
    (setDomains choice range st domains).1 ≠ .success ∧
      (setDomains choice range st domains).2 = domains := by
  induction domains generalizing st with
  | nil =>
    refine ⟨?_, rfl⟩
    change (if _ then _ else _) ≠ _
    rw [if_neg hchoice]
    split_ifs with hfound
    · exact hst hfound
    · exact ZeError.notAvailable.2
  | cons d domains ih =>
    rw [List.forall_mem_cons] at h
    rw [setDomains]
    split_ifs with hproperties hgpu hset
    · have hrest := ih h.2 { st with lastError := d.setterProperties } fun _ => hproperties
      exact ⟨hrest.1, congrArg (d :: ·) hrest.2⟩
    · exact absurd ⟨not_not.mp hproperties, hgpu, hset⟩ h.1
    · have hrest := ih h.2 { st with foundDomain := true, lastError := d.setRange } fun _ => hset
      exact ⟨hrest.1, congrArg (d :: ·) hrest.2⟩
    · have hrest := ih h.2 st hst
      exact ⟨hrest.1, congrArg (d :: ·) hrest.2⟩

/-- All domains are meant: an error is returned only if none has been set. -/
theorem setDomains_all (h : (setDomains .all range st domains).1 ≠ .success) :
    ¬st.anySuccess ∧ (setDomains .all range st domains).2 = domains := by
  induction domains generalizing st with
  | nil => exact ⟨fun hany => h (if_pos hany), rfl⟩
  | cons d domains ih =>
    rw [setDomains] at h ⊢
    by_cases hproperties : d.setterProperties ≠ .success
    · rw [if_pos hproperties] at h ⊢
      have hrest := ih h
      exact ⟨hrest.1, congrArg (d :: ·) hrest.2⟩
    rw [if_neg hproperties] at h ⊢
    by_cases hgpu : ¬d.OfGpu .all
    · rw [if_pos hgpu] at h ⊢
      have hrest := ih h
      exact ⟨hrest.1, congrArg (d :: ·) hrest.2⟩
    rw [if_neg hgpu] at h ⊢
    by_cases hset : d.setRange = .success
    · rw [if_pos hset] at h
      exact absurd rfl (ih h).1
    · rw [if_neg hset] at h ⊢
      have hrest := ih h
      exact ⟨hrest.1, congrArg (d :: ·) hrest.2⟩

variable {parents : Parents} {answers : TileAnswers} {subdeviceId : Int32} {tileId : UInt32}

theorem mapTile_ne_all (h : mapTile parents answers tileId = .ok choice) : choice ≠ .all := by
  unfold mapTile at h
  split_ifs at h
  · split at h
    · cases h
    · obtain rfl := Except.ok.inj h
      exact nofun
  · obtain rfl := Except.ok.inj h
    exact nofun

/-- An error is not success. -/
theorem mapTile_error {result : ZeResult} (h : mapTile parents answers tileId = .error result) :
    result ≠ .success := by
  unfold mapTile at h
  split_ifs at h
  · split at h
    next error _ =>
      obtain rfl := Except.error.inj h
      exact error.2
    next => cases h
  · obtain rfl := Except.error.inj h
    exact nofun
  · obtain rfl := Except.error.inj h
    exact nofun

/-- What is done for a tile. -/
theorem setFrequencyRange_of_tile (h : 0 ≤ subdeviceId) :
    setFrequencyRange parents answers range subdeviceId domains =
      match mapTile parents answers subdeviceId.toUInt32 with
      | .error result => (result, domains)
      | .ok choice => setDomains choice range {} domains := by
  have hzero : (0 : ℤ) ≤ subdeviceId.toInt := Int32.le_iff_toInt_le.mp h
  have hone : (-1 : Int32).toInt = -1 := by decide
  have hlt : ¬subdeviceId < -1 := by
    rw [Int32.lt_iff_toInt_lt, hone]
    omega
  have hne : subdeviceId ≠ -1 := by
    rintro rfl
    rw [hone] at hzero
    omega
  rw [setFrequencyRange, if_neg hlt, if_neg hne]

/-- An error changes nothing. -/
theorem setFrequencyRange_error
    (h : (setFrequencyRange parents answers range subdeviceId domains).1 ≠ .success) :
    (setFrequencyRange parents answers range subdeviceId domains).2 = domains := by
  unfold setFrequencyRange at h ⊢
  by_cases hlt : subdeviceId < -1
  · rw [if_pos hlt]
  rw [if_neg hlt] at h ⊢
  by_cases hall : subdeviceId = -1
  · rw [if_pos hall] at h ⊢
    exact (setDomains_all h).2
  rw [if_neg hall] at h ⊢
  cases hmap : mapTile parents answers subdeviceId.toUInt32 with
  | error result => rfl
  | ok choice =>
    rw [hmap] at h
    by_cases hany : ∃ d ∈ domains, d.Settable choice
    · obtain ⟨before, d, after, hfirst⟩ := exists_firstAt hany
      exact absurd (congrArg Prod.fst (setDomains_of_first (mapTile_ne_all hmap) hfirst {})) h
    · exact (setDomains_of_none (mapTile_ne_all hmap) (fun d hmem hset => hany ⟨d, hmem, hset⟩)
        {} (fun hfound => absurd hfound Bool.false_ne_true)).2

/-- A success has set the first domain of the tile that can be set. -/
theorem setFrequencyRange_success (htile : 0 ≤ subdeviceId)
    (h : (setFrequencyRange parents answers range subdeviceId domains).1 = .success) :
    ∃ choice before d after, mapTile parents answers subdeviceId.toUInt32 = .ok choice ∧
      FirstAt (FreqDomain.Settable choice) domains before d after ∧
      (setFrequencyRange parents answers range subdeviceId domains).2 =
        before ++ { d with range := range } :: after := by
  rw [setFrequencyRange_of_tile htile] at h ⊢
  cases hmap : mapTile parents answers subdeviceId.toUInt32 with
  | error result =>
    rw [hmap] at h
    exact absurd h (mapTile_error hmap)
  | ok choice =>
    rw [hmap] at h
    by_cases hany : ∃ d ∈ domains, d.Settable choice
    · obtain ⟨before, d, after, hfirst⟩ := exists_firstAt hany
      exact ⟨choice, before, d, after, rfl, hfirst,
        congrArg Prod.snd (setDomains_of_first (mapTile_ne_all hmap) hfirst {})⟩
    · exact absurd h (setDomains_of_none (mapTile_ne_all hmap)
        (fun d hmem hset => hany ⟨d, hmem, hset⟩) {}
        (fun hfound => absurd hfound Bool.false_ne_true)).1

end

/-! ## The getter -/

/-- A domain of the target that the getter stops at. -/
def FreqDomain.Read (choice : Choice) (d : FreqDomain F) : Prop :=
  d.getterProperties = .success ∧ d.OfGpu choice

instance (choice : Choice) (d : FreqDomain F) : Decidable (d.Read choice) :=
  inferInstanceAs (Decidable (_ ∧ _))

variable [Zero F]

/-- The loop of `getFreqRangeForTile`, which ends with the first domain of the tile. -/
def readDomain (choice : Choice) : List (FreqDomain F) → ZeResult × FreqRange F
  | [] => (.notAvailable, ⟨0, 0⟩)
  | d :: domains =>
    if d.Read choice then
      if d.getRange = .success then (.success, d.range) else (d.getRange, ⟨0, 0⟩)
    else readDomain choice domains

/-- Reads the frequency range of a tile. -/
def getFreqRangeForTile (parents : Parents) (answers : TileAnswers) (tileId : UInt32)
    (domains : List (FreqDomain F)) : ZeResult × FreqRange F :=
  match mapTile parents answers tileId with
  | .error result => (result, ⟨0, 0⟩)
  | .ok choice => readDomain choice domains

/-! ## What a call should do -/

/-- A call is right, if it ends with a result and leaves some domains. -/
structure RangeRight (parents : Parents) (setter getter : TileAnswers) (range : FreqRange F)
    (subdeviceId : Int32) (domains : List (FreqDomain F)) (run : ZeResult × List (FreqDomain F)) :
    Prop where
  unchanged : run.1 ≠ .success → run.2 = domains
  /-- One domain of the tile's GPU is changed. -/
  changed : 0 ≤ subdeviceId → run.1 = .success → ∃ choice before d after,
    mapTile parents setter subdeviceId.toUInt32 = .ok choice ∧ domains = before ++ d :: after ∧
    d.OfGpu choice ∧ run.2 = before ++ { d with range := range } :: after
  read : 0 ≤ subdeviceId → run.1 = .success →
    getFreqRangeForTile parents getter subdeviceId.toUInt32 run.2 = (.success, range)

/-! ## Reading back -/

section

variable {choice : Choice} {range : FreqRange F} {domains before after : List (FreqDomain F)}
  {d : FreqDomain F}

/-- **Spec of the getter.** -/
theorem readDomain_of_first (h : FirstAt (FreqDomain.Read choice) domains before d after) :
    readDomain choice domains =
      if d.getRange = .success then (.success, d.range) else (d.getRange, ⟨0, 0⟩) := by
  obtain ⟨rfl, hread, hbefore⟩ := h
  induction before with
  | nil => exact if_pos hread
  | cons other before ih =>
    rw [List.forall_mem_cons] at hbefore
    rw [List.cons_append, readDomain, if_neg hbefore.1, ih hbefore.2]

theorem readDomain_of_none (h : ∀ d ∈ domains, ¬d.Read choice) :
    readDomain choice domains = (.notAvailable, ⟨0, 0⟩) := by
  induction domains with
  | nil => rfl
  | cons d domains ih =>
    rw [List.forall_mem_cons] at h
    rw [readDomain, if_neg h.1, ih h.2]

/-- When a range is read. -/
theorem readDomain_eq_iff : readDomain choice domains = (.success, range) ↔
    ∃ before d after, FirstAt (FreqDomain.Read choice) domains before d after ∧
      d.getRange = .success ∧ d.range = range := by
  constructor
  · intro h
    by_cases hany : ∃ d ∈ domains, d.Read choice
    · obtain ⟨before, d, after, hfirst⟩ := exists_firstAt hany
      rw [readDomain_of_first hfirst] at h
      split_ifs at h with hget
      · exact ⟨before, d, after, hfirst, hget, (Prod.mk.inj h).2⟩
      · exact absurd (Prod.mk.inj h).1 hget
    · rw [readDomain_of_none fun d hmem hread => hany ⟨d, hmem, hread⟩] at h
      cases h
  · rintro ⟨before, d, after, hfirst, hget, rfl⟩
    rw [readDomain_of_first hfirst, if_pos hget]

/-- After a domain has been set, its range is read exactly if the getter stops there, or at another
domain with the same range. -/
theorem readDomain_set_iff : readDomain choice (before ++ { d with range := range } :: after) =
      (.success, range) ↔
    ∃ before' d' after', FirstAt (FreqDomain.Read choice) (before ++ d :: after) before' d' after' ∧
      d'.getRange = .success ∧ (before' = before ∨ d'.range = range) := by
  rw [readDomain_eq_iff]
  constructor
  · rintro ⟨before', d', after', hfirst, hget, hrange⟩
    rcases hfirst.replace d Iff.rfl with ⟨rfl, rfl, hfirst'⟩ | ⟨-, rest, rest', hfirst'⟩
    · exact ⟨_, d, _, hfirst', hget, .inl rfl⟩
    · exact ⟨_, d', _, hfirst', hget, .inr hrange⟩
  · rintro ⟨before', d', after', hfirst, hget, hsame⟩
    rcases hfirst.replace { d with range := range } Iff.rfl with
      ⟨rfl, rfl, hfirst'⟩ | ⟨hne, rest, rest', hfirst'⟩
    · exact ⟨_, _, _, hfirst', hget, rfl⟩
    · exact ⟨_, d', _, hfirst', hget, hsame.resolve_left hne⟩

/-- **When the range of a tile is set as it should be**: exactly if the getter stops at the domain that
has been set, or at one that has the range already, and can read it. -/
theorem setFrequencyRange_iff (parents : Parents) (setter getter : TileAnswers) (range : FreqRange F)
    (subdeviceId : Int32) (domains : List (FreqDomain F)) :
    RangeRight parents setter getter range subdeviceId domains
        (setFrequencyRange parents setter range subdeviceId domains) ↔
      (0 ≤ subdeviceId → ∀ choice, mapTile parents setter subdeviceId.toUInt32 = .ok choice →
        ∀ before d after, FirstAt (FreqDomain.Settable choice) domains before d after →
        ∃ choice', mapTile parents getter subdeviceId.toUInt32 = .ok choice' ∧
          ∃ before' d' after', FirstAt (FreqDomain.Read choice') domains before' d' after' ∧
            d'.getRange = .success ∧ (before' = before ∨ d'.range = range)) := by
  constructor
  · intro h htile choice hmap before d after hfirst
    have hrun : setFrequencyRange parents setter range subdeviceId domains =
        (.success, before ++ { d with range := range } :: after) := by
      rw [setFrequencyRange_of_tile htile, hmap]
      exact setDomains_of_first (mapTile_ne_all hmap) hfirst {}
    have hread := h.read htile (congrArg Prod.fst hrun)
    rw [hrun, getFreqRangeForTile] at hread
    cases hmap' : mapTile parents getter subdeviceId.toUInt32 with
    | error result =>
      rw [hmap'] at hread
      exact absurd (Prod.mk.inj hread).1 (mapTile_error hmap')
    | ok choice' =>
      rw [hmap'] at hread
      obtain ⟨before', d', after', hfirst', hget, hsame⟩ := readDomain_set_iff.mp hread
      rw [← hfirst.split] at hfirst'
      exact ⟨choice', rfl, before', d', after', hfirst', hget, hsame⟩
  · intro h
    refine ⟨setFrequencyRange_error, fun htile hsuccess => ?_, fun htile hsuccess => ?_⟩
    · obtain ⟨choice, before, d, after, hmap, hfirst, hrun⟩ := setFrequencyRange_success htile hsuccess
      exact ⟨choice, before, d, after, hmap, hfirst.split, hfirst.holds.2.1, hrun⟩
    · obtain ⟨choice, before, d, after, hmap, hfirst, hrun⟩ := setFrequencyRange_success htile hsuccess
      obtain ⟨choice', hmap', before', d', after', hfirst', hget, hsame⟩ :=
        h htile choice hmap before d after hfirst
      rw [hrun, getFreqRangeForTile, hmap']
      refine readDomain_set_iff.mpr ⟨before', d', after', ?_, hget, hsame⟩
      rw [← hfirst.split]
      exact hfirst'

/-- Two domains of the GPU of one device. The driver takes the range for the second one. -/
def twoGpuDomains : List (FreqDomain ℚ) :=
  [⟨⟨.gpu, false, 0⟩, ⟨300, 2000⟩, .success, .notAvailable, .success, .success⟩,
    ⟨⟨.gpu, false, 0⟩, ⟨300, 2000⟩, .success, .success, .success, .success⟩]

def noSubdevices : TileAnswers := ⟨.success, 0, fun _ => .error ZeError.notAvailable⟩

/-- The first one is read back. -/
theorem setFrequencyRange_second : ¬∀ (parents : Parents) (setter getter : TileAnswers)
    (range : FreqRange ℚ) (subdeviceId : Int32) (domains : List (FreqDomain ℚ)),
    RangeRight parents setter getter range subdeviceId domains
      (setFrequencyRange parents setter range subdeviceId domains) := by
  intro h
  have hright := h ⟨true, true⟩ noSubdevices noSubdevices ⟨500, 1000⟩ 0 twoGpuDomains
  have hread := congrArg (fun run => run.2.min) (hright.read (by decide) (by decide))
  exact absurd hread (by decide)

end

end Frequency

end XpuManager
