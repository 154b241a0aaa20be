import XpuManager.Oal.VfConfigFile

/-! # Shares of virtual functions

What each function gets of the totals that a file has for a device (`readVfConfigFromFile`,
`oal/lin/linvf.cpp`). -/

namespace XpuManager

namespace VfConfigFile

/-! ## Values of sections -/

inductive Field where
  | lmem
  | lmemEcc
  | contexts
  | doorbells
  | ggtt
  deriving DecidableEq

def Field.of (attrs : AttrFromConfigFile) : Field → Nat
  | lmem => attrs.vfLmem.toNat
  | lmemEcc => attrs.vfLmemEcc.toNat
  | contexts => attrs.vfContexts.toNat
  | doorbells => attrs.vfDoorbells.toNat
  | ggtt => attrs.vfGgtt.toNat

/-- The value of a field in a setting of it. -/
def Setting.value (field : Field) : Setting → Option Nat
  | lmem v => if field = .lmem then some v.toNat else none
  | lmemEcc v => if field = .lmemEcc then some v.toNat else none
  | contexts v => if field = .contexts then some v else none
  | doorbells v => if field = .doorbells then some v else none
  | ggtt v => if field = .ggtt then some v.toNat else none
  | scheduler _ => none

namespace Section

/-- The last value that a section sets, or the one before. -/
def valueFrom (s : Section) (field : Field) (v : Nat) : Nat :=
  s.settings.foldl (fun v setting => (setting.value field).getD v) v

/-- What the section sets a field to, 0 if it does not. -/
def value (s : Section) (field : Field) : Nat := s.valueFrom field 0

/-- The section sets the field. -/
def Sets (s : Section) (field : Field) : Prop := ∃ setting ∈ s.settings, (setting.value field).isSome

/-- The section names a scheduler. -/
def HasScheduler (s : Section) : Prop := ∃ scheduler, .scheduler scheduler ∈ s.settings

end Section

/-! ## What is promised -/

/-- The time that each function has. -/
def schedulerShare (numVfs : Nat) : Nat := vfExecQuantumUs / max (numVfs - 1) 1

/-- The scheduler values are those for a number of functions; none of them is negative. -/
structure SchedulerFor (numVfs : Nat) (attrs : AttrFromConfigFile) : Prop where
  pfExec : attrs.pfExec = pfExecQuantumMs
  pfPreempt : attrs.pfPreempt = pfPreemptTimeoutUs
  schedIfIdle : attrs.schedIfIdle = false
  vfExec : attrs.vfExec.toNat = min (schedulerShare numVfs / 2) maxVfExecQuantumMs
  vfPreempt : attrs.vfPreempt.toNat + attrs.vfExec.toNat * oneMsInUs =
    schedulerShare numVfs * oneMsInUs

/-- All functions together get no more than the default values, each of them its share of what the
section for their number does not set. -/
structure Shares (numVfs : Nat) (default : Section) (count : Option Section)
    (attrs : AttrFromConfigFile) : Prop where
  total : ∀ field, field ≠ .contexts → numVfs * field.of attrs ≤ default.value field
  share : ∀ field, field ≠ .contexts → (∀ s ∈ count, ¬ s.Sets field) →
    field.of attrs = default.value field / numVfs
  contexts : (∀ s ∈ count, ¬ s.Sets .contexts) →
    Field.contexts.of attrs = default.value .contexts
  scheduler : SchedulerFor numVfs attrs

/-- The sections of a file for a device and a number of functions, in their order. -/
inductive Layout where
  | defaultOnly (default : Section)
  | defaultFirst (default count : Section)
  | countFirst (count default : Section)

namespace Layout

def default : Layout → Section
  | defaultOnly default | defaultFirst default _ | countFirst _ default => default

def count : Layout → Option Section
  | defaultOnly _ => none
  | defaultFirst _ count | countFirst count _ => some count

def sections : Layout → List (Kind × Section)
  | defaultOnly default => [(.default, default)]
  | defaultFirst default count => [(.default, default), (.count, count)]
  | countFirst count default => [(.count, count), (.default, default)]

end Layout

/-- The sections of a device. -/
def sectionsFor (device : List Char) (numVfs : UInt32) (sections : List Section) :
    List (Kind × Section) :=
  sections.filterMap fun s => (kindOf device numVfs s.names).map (·, s)

/-- A file has one default section for the device, and no more than one for the number of functions. -/
def layoutOf (device : List Char) (numVfs : UInt32) (sections : List Section) : Option Layout :=
  match sectionsFor device numVfs sections with
  | [(.default, default)] => some (.defaultOnly default)
  | [(.default, default), (.count, count)] => some (.defaultFirst default count)
  | [(.count, count), (.default, default)] => some (.countFirst count default)
  | _ => none

/-- The code divides the default values only if it has read both sections, under different keys.
Otherwise the values that it has read have to be right as they are. -/
def Layout.Divides (numVfs : Nat) : Layout → Prop
  | defaultOnly default =>
    default.HasScheduler ∧ 127 ≤ numVfs ∧ numVfs ≤ 134 ∧
      ∀ field, field ≠ .contexts → default.value field = 0
  | defaultFirst default count =>
    if numVfs = 128 then
      (default.HasScheduler ∨ count.HasScheduler) ∧ ∀ field, field ≠ .contexts →
        (count.Sets field → numVfs * count.value field ≤ default.value field) ∧
          (¬ count.Sets field → default.value field = 0)
    else ∀ field, field ≠ .contexts → numVfs * count.value field ≤ default.value field
  | countFirst count default =>
    if numVfs = 128 then
      (default.HasScheduler ∨ count.HasScheduler) ∧ ∀ field, field ≠ .contexts →
        default.value field = 0 ∧ (default.Sets field ∨ count.value field = 0)
    else
      count.HasScheduler ∧ (∀ field, field ≠ .contexts →
        numVfs * count.value field ≤ default.value field ∧
          (count.Sets field ∨ default.value field < numVfs)) ∧
        (count.Sets .contexts ∨ default.value .contexts = 0)

/-! ## What is read -/

/-- The attributes after a section. -/
def Section.applyTo (s : Section) (key : UInt32) (attrs : AttrFromConfigFile) : AttrFromConfigFile :=
  { s.settings.foldl (Setting.apply key) attrs with driversAutoprobe := s.autoprobe }

/-- Changes of one key, one after the other. -/
theorem modify_modify (data : VfConfigMap) (key : UInt32)
    (change change' : AttrFromConfigFile → AttrFromConfigFile) :
    (data.modify key change).modify key change' = data.modify key (change' ∘ change) := by
  induction data with
  | nil => simp [VfConfigMap.modify]
  | cons entry rest ih =>
    obtain ⟨key', attrs⟩ := entry
    by_cases heq : key = key'
    · simp [VfConfigMap.modify, heq]
    · by_cases hlt : key < key'
      · simp [VfConfigMap.modify, heq, hlt]
      · simp [VfConfigMap.modify, heq, hlt, ih]

variable {device : List Char} {numVfs : UInt32} {s : Section} {sections : List Section}
  {items : List Item}

theorem runItems_cons_of_not {item : Item} {st : ConfigState}
    (h : (item.run device numVfs st).1 = false) :
    runItems device numVfs (item :: items) st = runItems device numVfs items (item.run device numVfs st).2 := by
  rw [runItems, h, if_neg Bool.false_ne_true]

/-- The settings of a section under its key, and the end of the section. -/
theorem runItems_settings {key : UInt32} (hkey : key ≠ 0) (settings : List Setting) (autoprobe : Bool)
    (data : VfConfigMap) :
    runItems device numVfs (settings.map .setting ++ .autoprobe autoprobe :: items) ⟨key, data⟩ =
      let next : ConfigState := ⟨key, data.modify key fun attrs =>
        { settings.foldl (Setting.apply key) attrs with driversAutoprobe := autoprobe }⟩
      if key ≠ xpumMaxVfNum then next else runItems device numVfs items next := by
  induction settings generalizing data with
  | nil => simp [runItems, Item.run, ConfigState.set, hkey]
  | cons setting settings ih =>
    rw [List.map_cons, List.cons_append, runItems_cons_of_not rfl]
    have hset : (Item.run device numVfs ⟨key, data⟩ (.setting setting)).2 =
        ⟨key, data.modify key fun attrs => setting.apply key attrs⟩ := by
      simp [Item.run, ConfigState.set, hkey]
    rw [hset, ih, modify_modify]
    rfl

/-- The settings of another section. -/
theorem runItems_skip (settings : List Setting) (autoprobe : Bool) (data : VfConfigMap) :
    runItems device numVfs (settings.map .setting ++ .autoprobe autoprobe :: items) ⟨0, data⟩ =
      runItems device numVfs items ⟨0, data⟩ := by
  induction settings with
  | nil => simp [runItems, Item.run, ConfigState.set]
  | cons setting settings ih =>
    rw [List.map_cons, List.cons_append, runItems_cons_of_not rfl]
    exact ih

/-- The sections of a device are read, up to one for the number of functions. -/
def readSections (numVfs : UInt32) : List (Kind × Section) → VfConfigMap → VfConfigMap
  | [], data => data
  | (kind, s) :: rest, data =>
    let key := keyOf numVfs (some kind)
    let next := data.modify key (s.applyTo key)
    if key ≠ xpumMaxVfNum then next else readSections numVfs rest next

theorem keyOf_ne_zero (hnum : numVfs ≠ 0) (kind : Kind) : keyOf numVfs (some kind) ≠ 0 := by
  cases kind with
  | default =>
    change xpumMaxVfNum ≠ 0
    decide
  | count => exact hnum

/-- **What is read** of a file are its sections. -/
theorem readSections_eq (hnum : numVfs ≠ 0) (sections : List Section) (st : ConfigState) :
    (runItems device numVfs (sections.flatMap Section.items) st).data =
      readSections numVfs (sectionsFor device numVfs sections) st.data := by
  induction sections generalizing st with
  | nil => rfl
  | cons s sections ih =>
    rw [List.flatMap_cons, Section.items, List.append_assoc, List.cons_append,
      runItems_cons_of_not rfl, sectionsFor, List.filterMap_cons]
    have hname : (Item.run device numVfs st (.name s.names s.names_ne)).2 =
        ⟨keyOf numVfs (kindOf device numVfs s.names), st.data⟩ := rfl
    rw [hname]
    cases hkind : kindOf device numVfs s.names with
    | none =>
      change (runItems device numVfs (s.settings.map .setting ++ .autoprobe s.autoprobe ::
        sections.flatMap Section.items) ⟨0, st.data⟩).data = _
      rw [runItems_skip, ih]
      rfl
    | some kind =>
      have hkey := keyOf_ne_zero hnum kind
      change (runItems device numVfs (s.settings.map .setting ++ .autoprobe s.autoprobe ::
        sections.flatMap Section.items) ⟨keyOf numVfs (some kind), st.data⟩).data = _
      rw [runItems_settings hkey, Option.map_some, readSections]
      dsimp only
      split
      next => rfl
      next => exact ih _

/-! ## The values that are read -/

theorem of_apply (field : Field) (key : UInt32) (attrs : AttrFromConfigFile) (setting : Setting) :
    field.of (setting.apply key attrs) = (setting.value field).getD (field.of attrs) := by
  have hfin (v : Fin 0x80000000) : (UInt32.ofNat v).toNat = v := by
    exact UInt32.toNat_ofNat_of_lt' (Nat.lt_trans v.isLt (by decide))
  cases setting <;> cases field <;>
    simp [Field.of, Setting.apply, Setting.value, schedulerParameters, hfin]

theorem of_applyTo (s : Section) (field : Field) (key : UInt32) (attrs : AttrFromConfigFile) :
    field.of (s.applyTo key attrs) = s.valueFrom field (field.of attrs) := by
  have hfold (settings : List Setting) (attrs : AttrFromConfigFile) :
      field.of (settings.foldl (Setting.apply key) attrs) =
        settings.foldl (fun v setting => (setting.value field).getD v) (field.of attrs) := by
    induction settings generalizing attrs with
    | nil => rfl
    | cons setting settings ih => rw [List.foldl_cons, List.foldl_cons, ih, of_apply]
  rw [Section.valueFrom, ← hfold, Section.applyTo]
  cases field <;> rfl

/-- The value from before is left. -/
theorem Section.valueFrom_of_not_sets {field : Field} (h : ¬ s.Sets field) (v : Nat) :
    s.valueFrom field v = v := by
  have hnone : ∀ setting ∈ s.settings, setting.value field = none := fun setting hsetting =>
    Option.not_isSome_iff_eq_none.mp fun hsome => h ⟨setting, hsetting, hsome⟩
  rw [Section.valueFrom]
  generalize s.settings = settings at hnone
  induction settings with
  | nil => rfl
  | cons setting settings ih =>
    rw [List.foldl_cons, hnone setting List.mem_cons_self]
    exact ih fun other hother => hnone other (List.mem_cons_of_mem _ hother)

theorem Section.value_of_not_sets {field : Field} (h : ¬ s.Sets field) : s.value field = 0 :=
  valueFrom_of_not_sets h 0

/-- The section decides. -/
theorem Section.valueFrom_of_sets {field : Field} (h : s.Sets field) (v : Nat) :
    s.valueFrom field v = s.value field := by
  obtain ⟨setting, hsetting, hsome⟩ := h
  rw [Section.value, Section.valueFrom, Section.valueFrom]
  generalize (0 : Nat) = w
  generalize s.settings = settings at hsetting
  induction settings generalizing v w with
  | nil => cases hsetting
  | cons other settings ih =>
    rw [List.foldl_cons, List.foldl_cons]
    rcases List.mem_cons.mp hsetting with rfl | hmem
    · obtain ⟨value, hvalue⟩ := Option.isSome_iff_exists.mp hsome
      rw [hvalue]
      rfl
    · exact ih _ _ hmem

/-- From no attributes a section has its own values. -/
theorem of_applyTo_empty (s : Section) (field : Field) (key : UInt32) :
    field.of (s.applyTo key {}) = s.value field := by
  rw [of_applyTo]
  cases field <;> rfl

/-! ## The scheduler -/

variable {attrs attrs' : AttrFromConfigFile} {m n : Nat}

theorem toInt_toInt32 (hnum : numVfs.toNat < 0x80000000) : numVfs.toInt32.toInt = numVfs.toNat := by
  change numVfs.toBitVec.toInt = (numVfs.toBitVec.toNat : Int)
  exact BitVec.toInt_eq_toNat_of_lt (by change 2 * numVfs.toNat < 2 ^ 32; omega)

theorem schedulerFor_parameters (hnum : numVfs.toNat ≤ 65535) (attrs : AttrFromConfigFile) :
    SchedulerFor numVfs.toNat (schedulerParameters numVfs.toInt32.toInt attrs) := by
  have hmax : (max ((numVfs.toNat : Int) - 1) 1).toNat = max (numVfs.toNat - 1) 1 := by omega
  have hfits {v : Nat} (hv : v ≤ 2000000) : (UInt64.ofNat v).toNat = v :=
    UInt64.toNat_ofNat_of_lt' (Nat.lt_of_le_of_lt hv (by decide))
  have hshare : schedulerShare numVfs.toNat ≤ 2000 := Nat.div_le_self _ _
  have hexec : min (schedulerShare numVfs.toNat / 2) maxVfExecQuantumMs ≤
      schedulerShare numVfs.toNat := (Nat.min_le_left _ _).trans (Nat.div_le_self _ _)
  have hrest : (schedulerShare numVfs.toNat - min (schedulerShare numVfs.toNat / 2) maxVfExecQuantumMs) *
      oneMsInUs ≤ 2000000 := Nat.mul_le_mul_right 1000 ((Nat.sub_le _ _).trans hshare)
  have hvfExec := hfits (hexec.trans (hshare.trans (by decide)))
  rw [schedulerParameters, toInt_toInt32 (by omega), hmax, ← schedulerShare]
  refine ⟨rfl, rfl, rfl, hvfExec, ?_⟩
  dsimp only
  rw [hvfExec, hfits hrest, ← Nat.add_mul, Nat.sub_add_cancel hexec]

/-- For two numbers the values are the same if the time is. -/
theorem SchedulerFor.iff (h : SchedulerFor m attrs) :
    SchedulerFor n attrs ↔ schedulerShare n = schedulerShare m := by
  constructor
  · intro h'
    have hsum := h'.vfPreempt.symm.trans h.vfPreempt
    exact Nat.eq_of_mul_eq_mul_right (by decide) hsum
  · intro heq
    exact ⟨h.pfExec, h.pfPreempt, h.schedIfIdle, heq ▸ h.vfExec, heq ▸ h.vfPreempt⟩

theorem schedulerShare_eq_iff (n : Nat) : schedulerShare n = schedulerShare 128 ↔ 127 ≤ n ∧ n ≤ 134 := by
  have hshare : schedulerShare 128 = 15 := by decide
  rw [hshare, schedulerShare, vfExecQuantumUs, Nat.div_eq_iff (by omega)]
  omega

theorem schedulerFor_apply {setting : Setting} (h : ∀ scheduler, setting ≠ .scheduler scheduler)
    (key : UInt32) (attrs : AttrFromConfigFile) :
    SchedulerFor n (setting.apply key attrs) ↔ SchedulerFor n attrs := by
  cases setting with
  | scheduler scheduler => exact absurd rfl (h scheduler)
  | _ =>
    exact ⟨fun h => ⟨h.pfExec, h.pfPreempt, h.schedIfIdle, h.vfExec, h.vfPreempt⟩,
      fun h => ⟨h.pfExec, h.pfPreempt, h.schedIfIdle, h.vfExec, h.vfPreempt⟩⟩

theorem schedulerFor_autoprobe (on : Bool) (attrs : AttrFromConfigFile) :
    SchedulerFor n { attrs with driversAutoprobe := on } ↔ SchedulerFor n attrs :=
  ⟨fun h => ⟨h.pfExec, h.pfPreempt, h.schedIfIdle, h.vfExec, h.vfPreempt⟩,
    fun h => ⟨h.pfExec, h.pfPreempt, h.schedIfIdle, h.vfExec, h.vfPreempt⟩⟩

/-- A section without scheduler leaves the scheduler values. -/
theorem schedulerFor_applyTo_of_not (h : ¬ s.HasScheduler) (key : UInt32) (attrs : AttrFromConfigFile) :
    SchedulerFor n (s.applyTo key attrs) ↔ SchedulerFor n attrs := by
  have hnone : ∀ setting ∈ s.settings, ∀ scheduler, setting ≠ .scheduler scheduler := by
    rintro _ hsetting scheduler rfl
    exact h ⟨scheduler, hsetting⟩
  rw [Section.applyTo, schedulerFor_autoprobe]
  generalize s.settings = settings at hnone
  induction settings generalizing attrs with
  | nil => rfl
  | cons setting settings ih =>
    rw [List.foldl_cons]
    have hrest := ih (setting.apply key attrs) fun other hother =>
      hnone other (List.mem_cons_of_mem _ hother)
    exact hrest.trans (schedulerFor_apply (hnone setting List.mem_cons_self) key attrs)

/-- One with a scheduler has the values of its key. -/
theorem schedulerFor_applyTo (h : s.HasScheduler) (hnum : numVfs.toNat ≤ 65535)
    (attrs : AttrFromConfigFile) : SchedulerFor numVfs.toNat (s.applyTo numVfs attrs) := by
  obtain ⟨scheduler, hmem⟩ := h
  rw [Section.applyTo, schedulerFor_autoprobe]
  generalize s.settings = settings at hmem
  induction settings using List.reverseRecOn with
  | nil => cases hmem
  | append_singleton settings setting ih =>
    rw [List.foldl_append, List.foldl_cons, List.foldl_nil]
    by_cases hlast : ∃ scheduler, setting = .scheduler scheduler
    · obtain ⟨last, rfl⟩ := hlast
      exact schedulerFor_parameters hnum _
    · rw [schedulerFor_apply fun last heq => hlast ⟨last, heq⟩]
      refine ih ((List.mem_append.mp hmem).resolve_right fun hmem => hlast ⟨scheduler, ?_⟩)
      exact (List.mem_singleton.mp hmem).symm

theorem not_schedulerFor_empty : ¬ SchedulerFor n {} := fun h => absurd h.pfExec (by decide)

/-! ## The two sections together -/

/-- A value, or the share of the default one. -/
theorem orShareOf_eq (hnum : numVfs ≠ 0) (value total : UInt64) :
    ∃ v, orShareOf value total numVfs = some v ∧
      v.toNat = if value.toNat = 0 then total.toNat / numVfs.toNat else value.toNat := by
  have hzero : value = 0 ↔ value.toNat = 0 := UInt64.toNat_inj.symm
  by_cases hvalue : value = 0
  · rw [if_pos (hzero.mp hvalue)]
    by_cases htotal : total = 0
    · refine ⟨0, ?_, ?_⟩
      · rw [orShareOf, if_neg fun h => h.2 htotal, hvalue]
      · rw [htotal]
        exact (Nat.zero_div _).symm
    · refine ⟨total / numVfs.toUInt64, ?_, ?_⟩
      · rw [orShareOf, if_pos ⟨hvalue, htotal⟩, shareOf, if_neg hnum]
      · rw [UInt64.toNat_div, UInt32.toNat_toUInt64]
  · refine ⟨value, ?_, ?_⟩
    · rw [orShareOf, if_neg fun h => hvalue h.1]
    · rw [if_neg fun h => hvalue (hzero.mpr h)]

/-- What each function gets of a default value if its own value is 0. -/
def Field.shareOf (numVfs total : Nat) : Field → Nat
  | contexts => total
  | _ => total / numVfs

/-- A count with a section of its own; what it leaves 0 is a share of the totals. -/
theorem combineAttrConfig_of_lookup {data : VfConfigMap} {count : AttrFromConfigFile} (hnum : numVfs ≠ 0)
    (hdata : data.length ≠ 1) (hcount : data.lookup numVfs = some count) :
    ∃ attrs, combineAttrConfig data numVfs = some (schedulerParameters numVfs.toInt32.toInt attrs) ∧
      ∀ field : Field, field.of attrs = if field.of count = 0 then
        field.shareOf numVfs.toNat (field.of (data.get xpumMaxVfNum)) else field.of count := by
  obtain ⟨lmem, hlmem, hlmemValue⟩ := orShareOf_eq hnum count.vfLmem (data.get xpumMaxVfNum).vfLmem
  obtain ⟨ecc, hecc, heccValue⟩ := orShareOf_eq hnum count.vfLmemEcc (data.get xpumMaxVfNum).vfLmemEcc
  obtain ⟨doorbells, hdoorbells, hdoorbellsValue⟩ := orShareOf_eq hnum count.vfDoorbells.toUInt64
    (data.get xpumMaxVfNum).vfDoorbells.toUInt64
  obtain ⟨ggtt, hggtt, hggttValue⟩ := orShareOf_eq hnum count.vfGgtt (data.get xpumMaxVfNum).vfGgtt
  have hcombine : combineAttrConfig data numVfs = some (schedulerParameters numVfs.toInt32.toInt
      { count with
        vfLmem := lmem
        vfLmemEcc := ecc
        vfContexts := if count.vfContexts = 0 then (data.get xpumMaxVfNum).vfContexts
          else count.vfContexts
        vfDoorbells := doorbells.toUInt32
        vfGgtt := ggtt }) := by
    unfold combineAttrConfig
    split
    next => exact absurd rfl hdata
    next => simp only [hcount, hlmem, hecc, hdoorbells, hggtt, bind, Option.bind_some, pure]
  refine ⟨_, hcombine, fun field => ?_⟩
  cases field with
  | lmem => exact hlmemValue
  | lmemEcc => exact heccValue
  | ggtt => exact hggttValue
  | contexts =>
    have hzero : count.vfContexts = 0 ↔ count.vfContexts.toNat = 0 := UInt32.toNat_inj.symm
    simp only [Field.of, Field.shareOf, ← hzero]
    split <;> rfl
  | doorbells =>
    rw [UInt32.toNat_toUInt64, UInt32.toNat_toUInt64] at hdoorbellsValue
    have hlt : doorbells.toNat < 2 ^ 32 := by
      rw [hdoorbellsValue]
      split
      · exact Nat.lt_of_le_of_lt (Nat.div_le_self _ _) (data.get xpumMaxVfNum).vfDoorbells.toNat_lt
      · exact count.vfDoorbells.toNat_lt
    change doorbells.toUInt32.toNat = _
    rw [UInt64.toNat_toUInt32, Nat.mod_eq_of_lt hlt]
    exact hdoorbellsValue

/-- The map after the default section and one for another number. -/
theorem readSections_both (hmax : numVfs ≠ xpumMaxVfNum) (default count : Section) :
    ∃ data, readSections numVfs [(.default, default), (.count, count)] [] = data ∧ data.length ≠ 1 ∧
      data.lookup numVfs = some (count.applyTo numVfs {}) ∧
      data.get xpumMaxVfNum = default.applyTo xpumMaxVfNum {} := by
  refine ⟨_, rfl, ?_⟩
  have hbeq : (numVfs == xpumMaxVfNum) = false := beq_false_of_ne hmax
  have hbeq' : (xpumMaxVfNum == numVfs) = false := beq_false_of_ne hmax.symm
  by_cases hlt : numVfs < xpumMaxVfNum
  · simp [readSections, keyOf, VfConfigMap.modify, VfConfigMap.get, List.lookup_cons, hmax, hlt, hbeq']
  · simp [readSections, keyOf, VfConfigMap.modify, VfConfigMap.get, List.lookup_cons, hmax, hlt, hbeq]

/-! ## When they are shares -/

/-- Shares, as conditions on the values. -/
theorem shares_iff {default : Section} {count : Option Section} {v : Field → Nat}
    (hof : ∀ field : Field, field.of attrs = v field) :
    Shares n default count attrs ↔
      (∀ field, field ≠ .contexts → n * v field ≤ default.value field ∧
        ((∀ s ∈ count, ¬ s.Sets field) → v field = default.value field / n)) ∧
      ((∀ s ∈ count, ¬ s.Sets .contexts) → v .contexts = default.value .contexts) ∧
      SchedulerFor n attrs := by
  constructor
  · intro h
    refine ⟨fun field hfield => ⟨?_, ?_⟩, ?_, h.scheduler⟩
    · rw [← hof]
      exact h.total field hfield
    · rw [← hof]
      exact h.share field hfield
    · rw [← hof]
      exact h.contexts
  · rintro ⟨hfields, hcontexts, hscheduler⟩
    refine ⟨fun field hfield => ?_, fun field hfield => ?_, ?_, hscheduler⟩
    · rw [hof]
      exact (hfields field hfield).1
    · rw [hof]
      exact (hfields field hfield).2
    · rw [hof]
      exact hcontexts

theorem eq_zero_of_mul_le {v : Nat} (hn : 2 ≤ n) (h : n * v ≤ v) : v = 0 := by
  have hle := Nat.mul_le_mul_right v hn
  omega

theorem schedulerFor_max (h : s.HasScheduler) (attrs : AttrFromConfigFile) :
    SchedulerFor n (s.applyTo xpumMaxVfNum attrs) ↔ 127 ≤ n ∧ n ≤ 134 := by
  have hle : xpumMaxVfNum.toNat ≤ 65535 := by decide
  exact (schedulerFor_applyTo h hle attrs).iff.trans (schedulerShare_eq_iff n)

/-- Of two sections under the key of the default one, one has a scheduler. -/
theorem schedulerFor_both {t : Section} :
    SchedulerFor 128 (t.applyTo xpumMaxVfNum (s.applyTo xpumMaxVfNum {})) ↔
      s.HasScheduler ∨ t.HasScheduler := by
  by_cases ht : t.HasScheduler
  · exact iff_of_true ((schedulerFor_max ht _).mpr (by decide)) (.inr ht)
  · rw [schedulerFor_applyTo_of_not ht]
    by_cases hs : s.HasScheduler
    · exact iff_of_true ((schedulerFor_max hs _).mpr (by decide)) (.inl hs)
    · rw [schedulerFor_applyTo_of_not hs]
      exact iff_of_false not_schedulerFor_empty (not_or.mpr ⟨hs, ht⟩)

/-- A section that sets a field, and one that does not. -/
theorem forall_count (count : Section) (field : Field) :
    (∀ s ∈ some count, ¬ s.Sets field) ↔ ¬ count.Sets field := by
  simp

variable {default count : Section}

theorem shares_defaultOnly : Shares n default none (default.applyTo xpumMaxVfNum {}) ↔
    (Layout.defaultOnly default).Divides n := by
  rw [shares_iff (of_applyTo_empty default · xpumMaxVfNum)]
  constructor
  · rintro ⟨hfields, -, hscheduler⟩
    by_cases h : default.HasScheduler
    · obtain ⟨hlow, hhigh⟩ := (schedulerFor_max h {}).mp hscheduler
      exact ⟨h, hlow, hhigh, fun field hfield =>
        eq_zero_of_mul_le (by omega) (hfields field hfield).1⟩
    · exact absurd ((schedulerFor_applyTo_of_not h _ _).mp hscheduler) not_schedulerFor_empty
  · rintro ⟨h, hlow, hhigh, hzero⟩
    refine ⟨fun field hfield => ?_, fun _ => rfl, (schedulerFor_max h {}).mpr ⟨hlow, hhigh⟩⟩
    rw [hzero field hfield]
    exact ⟨Nat.le_refl 0, fun _ => (Nat.zero_div n).symm⟩

/-- Only the section for the number is read if it comes first. -/
theorem shares_countFirst (hpos : 0 < numVfs.toNat) (hle : numVfs.toNat ≤ 65535)
    (hmax : numVfs.toNat ≠ 128) :
    Shares numVfs.toNat default (some count) (count.applyTo numVfs {}) ↔
      (Layout.countFirst count default).Divides numVfs.toNat := by
  rw [shares_iff (of_applyTo_empty count · numVfs), Layout.Divides, if_neg hmax]
  constructor
  · rintro ⟨hfields, hcontexts, hscheduler⟩
    have hset (field : Field) : count.Sets field ∨ ∀ s ∈ some count, ¬ s.Sets field := by
      rw [forall_count]
      exact Classical.em _
    refine ⟨?_, fun field hfield => ⟨(hfields field hfield).1, ?_⟩, ?_⟩
    · by_contra h
      exact not_schedulerFor_empty ((schedulerFor_applyTo_of_not h _ _).mp hscheduler)
    · refine (hset field).imp_right fun hnone => ?_
      have hshare := (hfields field hfield).2 hnone
      rw [Section.value_of_not_sets ((forall_count count field).mp hnone)] at hshare
      exact (Nat.div_eq_zero_iff_lt hpos).mp hshare.symm
    · refine (hset .contexts).imp_right fun hnone => ?_
      rw [← hcontexts hnone, Section.value_of_not_sets ((forall_count count .contexts).mp hnone)]
  · rintro ⟨h, hfields, hcontexts⟩
    refine ⟨fun field hfield => ⟨(hfields field hfield).1, fun hnone => ?_⟩, fun hnone => ?_,
      schedulerFor_applyTo h hle {}⟩
    · rw [forall_count] at hnone
      have hlt := (hfields field hfield).2.resolve_left hnone
      rw [Section.value_of_not_sets hnone, Nat.div_eq_of_lt hlt]
    · rw [forall_count] at hnone
      rw [Section.value_of_not_sets hnone, hcontexts.resolve_left hnone]

/-- Both sections are read if the default one comes first. -/
theorem shares_defaultFirst (hle : numVfs.toNat ≤ 65535) (hmax : numVfs.toNat ≠ 128)
    {attrs : AttrFromConfigFile}
    (hof : ∀ field : Field, field.of attrs = if count.value field = 0 then
      field.shareOf numVfs.toNat (default.value field) else count.value field) :
    Shares numVfs.toNat default (some count) (schedulerParameters numVfs.toInt32.toInt attrs) ↔
      (Layout.defaultFirst default count).Divides numVfs.toNat := by
  have hof' (field : Field) : field.of (schedulerParameters numVfs.toInt32.toInt attrs) =
      if count.value field = 0 then field.shareOf numVfs.toNat (default.value field)
      else count.value field := by
    rw [← hof]
    cases field <;> rfl
  have hshare {field : Field} (hfield : field ≠ .contexts) (total : Nat) :
      field.shareOf numVfs.toNat total = total / numVfs.toNat := by
    cases field with
    | contexts => exact absurd rfl hfield
    | _ => rfl
  rw [shares_iff hof', Layout.Divides, if_neg hmax]
  constructor
  · rintro ⟨hfields, -, -⟩ field hfield
    have htotal := (hfields field hfield).1
    split at htotal
    next hzero =>
      rw [hzero]
      exact Nat.zero_le _
    next => exact htotal
  · intro hfields
    refine ⟨fun field hfield => ⟨?_, fun hnone => ?_⟩, fun hnone => ?_,
      schedulerFor_parameters hle attrs⟩
    · split
      next =>
        rw [hshare hfield]
        exact Nat.mul_div_le _ _
      next => exact hfields field hfield
    · rw [forall_count] at hnone
      rw [if_pos (Section.value_of_not_sets hnone), hshare hfield]
    · rw [forall_count] at hnone
      rw [if_pos (Section.value_of_not_sets hnone)]
      rfl

/-- The number 128 has the key of the default section, which its own section changes. -/
theorem shares_defaultFirst_max :
    Shares 128 default (some count) (count.applyTo xpumMaxVfNum (default.applyTo xpumMaxVfNum {})) ↔
      (Layout.defaultFirst default count).Divides 128 := by
  have hof (field : Field) : field.of (count.applyTo xpumMaxVfNum (default.applyTo xpumMaxVfNum {})) =
      count.valueFrom field (default.value field) := by
    rw [of_applyTo, of_applyTo_empty]
  rw [shares_iff hof, Layout.Divides, if_pos rfl]
  constructor
  · rintro ⟨hfields, -, hscheduler⟩
    refine ⟨schedulerFor_both.mp hscheduler, fun field hfield => ⟨fun hset => ?_, fun hnone => ?_⟩⟩
    · rw [← Section.valueFrom_of_sets hset (default.value field)]
      exact (hfields field hfield).1
    · have htotal := (hfields field hfield).1
      rw [Section.valueFrom_of_not_sets hnone] at htotal
      exact eq_zero_of_mul_le (by decide) htotal
  · rintro ⟨h, hfields⟩
    refine ⟨fun field hfield => ?_, fun hnone => ?_, schedulerFor_both.mpr h⟩
    · by_cases hset : count.Sets field
      · rw [Section.valueFrom_of_sets hset]
        exact ⟨(hfields field hfield).1 hset,
          fun hnone => absurd hset ((forall_count count field).mp hnone)⟩
      · rw [Section.valueFrom_of_not_sets hset, (hfields field hfield).2 hset]
        exact ⟨Nat.le_refl 0, fun _ => rfl⟩
    · rw [forall_count] at hnone
      exact Section.valueFrom_of_not_sets hnone _

/-- Its own section is changed by the default one if that comes later. -/
theorem shares_countFirst_max :
    Shares 128 default (some count) (default.applyTo xpumMaxVfNum (count.applyTo xpumMaxVfNum {})) ↔
      (Layout.countFirst count default).Divides 128 := by
  have hof (field : Field) : field.of (default.applyTo xpumMaxVfNum (count.applyTo xpumMaxVfNum {})) =
      default.valueFrom field (count.value field) := by
    rw [of_applyTo, of_applyTo_empty]
  rw [shares_iff hof, Layout.Divides, if_pos rfl]
  constructor
  · rintro ⟨hfields, -, hscheduler⟩
    refine ⟨(schedulerFor_both.mp hscheduler).symm, fun field hfield => ?_⟩
    have htotal := (hfields field hfield).1
    by_cases hset : default.Sets field
    · rw [Section.valueFrom_of_sets hset] at htotal
      exact ⟨eq_zero_of_mul_le (by decide) htotal, .inl hset⟩
    · rw [Section.valueFrom_of_not_sets hset, Section.value_of_not_sets hset] at htotal
      exact ⟨Section.value_of_not_sets hset, .inr (by omega)⟩
  · rintro ⟨h, hfields⟩
    refine ⟨fun field hfield => ?_, fun hnone => ?_, schedulerFor_both.mpr h.symm⟩
    · obtain ⟨hzero, hset⟩ := hfields field hfield
      have hvalue : default.valueFrom field (count.value field) = 0 := by
        by_cases hset' : default.Sets field
        · rw [Section.valueFrom_of_sets hset', hzero]
        · rw [Section.valueFrom_of_not_sets hset', hset.resolve_left hset']
      rw [hvalue, hzero]
      exact ⟨Nat.le_refl 0, fun _ => rfl⟩
    · rw [forall_count] at hnone
      rw [Section.value_of_not_sets hnone]
      rfl

/-! ## The whole file -/

theorem sectionsFor_of_layoutOf {layout : Layout} (h : layoutOf device numVfs sections = some layout) :
    sectionsFor device numVfs sections = layout.sections := by
  unfold layoutOf at h
  split at h <;> cases h <;> assumption

theorem modify_ne_nil (data : VfConfigMap) (key : UInt32)
    (change : AttrFromConfigFile → AttrFromConfigFile) : data.modify key change ≠ [] := by
  cases data with
  | nil => nofun
  | cons entry rest =>
    rw [VfConfigMap.modify]
    split
    · exact List.cons_ne_nil _ _
    · split <;> exact List.cons_ne_nil _ _

theorem readSections_ne_nil {data : VfConfigMap} {read : List (Kind × Section)}
    (h : data ≠ [] ∨ read ≠ []) : readSections numVfs read data ≠ [] := by
  induction read generalizing data with
  | nil => exact h.resolve_right (· rfl)
  | cons entry rest ih =>
    rw [readSections]
    split
    · exact modify_ne_nil _ _ _
    · exact ih (.inl (modify_ne_nil _ _ _))

theorem Layout.sections_ne_nil (layout : Layout) : layout.sections ≠ [] := by
  cases layout <;> exact List.cons_ne_nil _ _

/-- The attributes are those of the sections for the device. -/
theorem vfConfigOf_of_written {content : String} {deviceId : UInt32} {layout : Layout}
    (hnum : numVfs ≠ 0) (hwritten : Written (fileLines content) (sections.flatMap Section.items))
    (hlayout : layoutOf (deviceIdStr deviceId) numVfs sections = some layout) :
    vfConfigOf content deviceId numVfs =
      combineAttrConfig (readSections numVfs layout.sections []) numVfs := by
  have hdata : (runItems (deviceIdStr deviceId) numVfs (sections.flatMap Section.items) ⟨0, []⟩).data =
      readSections numVfs layout.sections [] := by
    rw [readSections_eq hnum, sectionsFor_of_layoutOf hlayout]
  have hread : readSections numVfs layout.sections [] ≠ [] :=
    readSections_ne_nil (.inr layout.sections_ne_nil)
  unfold vfConfigOf
  rw [configLines_of_written hwritten]
  -- the assumption `hread` takes the second branch
  simp only [bind, Option.bind_some, hdata]

/-- The attributes of one entry are those of the entry. -/
theorem combineAttrConfig_single (key : UInt32) (attrs : AttrFromConfigFile) :
    combineAttrConfig [(key, attrs)] numVfs = some attrs := rfl

/-- The shares of a written file, over its sections. -/
theorem vfConfigOf_shares_iff {content : String} {deviceId : UInt32} {layout : Layout}
    (hpos : 1 ≤ numVfs.toNat) (hle : numVfs.toNat ≤ 65535)
    (hwritten : Written (fileLines content) (sections.flatMap Section.items))
    (hlayout : layoutOf (deviceIdStr deviceId) numVfs sections = some layout) :
    (∃ attrs, vfConfigOf content deviceId numVfs = some attrs ∧
      Shares numVfs.toNat layout.default layout.count attrs) ↔ layout.Divides numVfs.toNat := by
  have hnum : numVfs ≠ 0 := by
    rintro rfl
    cases hpos
  have hmax : numVfs ≠ xpumMaxVfNum ↔ numVfs.toNat ≠ 128 := not_congr UInt32.toNat_inj.symm
  have hsome {attrs : AttrFromConfigFile} (h : vfConfigOf content deviceId numVfs = some attrs) :
      (∃ attrs, vfConfigOf content deviceId numVfs = some attrs ∧
        Shares numVfs.toNat layout.default layout.count attrs) ↔
        Shares numVfs.toNat layout.default layout.count attrs := by
    simp [h]
  rw [vfConfigOf_of_written hnum hwritten hlayout] at hsome ⊢
  cases layout with
  | defaultOnly default => exact (hsome (combineAttrConfig_single _ _)).trans shares_defaultOnly
  | defaultFirst default count =>
    by_cases h : numVfs = xpumMaxVfNum
    · subst h
      exact (hsome (combineAttrConfig_single _ _)).trans shares_defaultFirst_max
    · obtain ⟨data, hdata, hlength, hcount, hdefault⟩ := readSections_both h default count
      obtain ⟨attrs, hcombine, hof⟩ := combineAttrConfig_of_lookup hnum hlength hcount
      have hof' (field : Field) : field.of attrs = if count.value field = 0 then
          field.shareOf numVfs.toNat (default.value field) else count.value field := by
        rw [hof, hdefault, of_applyTo_empty, of_applyTo_empty]
      rw [← hdata] at hcombine
      exact (hsome hcombine).trans (shares_defaultFirst hle (hmax.mp h) hof')
  | countFirst count default =>
    by_cases h : numVfs = xpumMaxVfNum
    · subst h
      exact (hsome (combineAttrConfig_single _ _)).trans shares_countFirst_max
    · have hread : readSections numVfs (Layout.countFirst count default).sections [] =
          [(numVfs, count.applyTo numVfs {})] := by
        simp [Layout.sections, readSections, keyOf, h, VfConfigMap.modify]
      rw [hread] at hsome ⊢
      exact (hsome (combineAttrConfig_single _ _)).trans (shares_countFirst hpos hle (hmax.mp h))

/-- A file that is there is read. -/
theorem readVfConfigFromFile_ret_iff {io : FileIo} {s : FileState} {content : String}
    (hpresent : io.onExists (io.findResourceFile vgpuConfFile) = .present)
    (hcontent : streamContent io s.contents (io.findResourceFile vgpuConfFile) = some content)
    (deviceId numVfs : UInt32) (attrs : AttrFromConfigFile) :
    (∃ t, readVfConfigFromFile io deviceId numVfs s = (.ret (some attrs), t)) ↔
      vfConfigOf content deviceId numVfs = some attrs := by
  have hexists : fileExists io (io.findResourceFile vgpuConfFile) s =
      (.ret true, s.log (.looked (io.findResourceFile vgpuConfFile))) := by
    simp [fileExists, pathExists, hpresent]
  have hread : readStream io (io.findResourceFile vgpuConfFile)
      (s.log (.looked (io.findResourceFile vgpuConfFile))) = (.ret (some content),
        (s.log (.looked (io.findResourceFile vgpuConfFile))).log
          (.read (io.findResourceFile vgpuConfFile))) := by
    rw [readStream_apply, ← hcontent]
    rfl
  rw [readVfConfigFromFile, Prog.bind_of_ret hexists, if_neg nofun, Prog.bind_of_ret hread]
  dsimp only
  constructor
  · rintro ⟨t, hret⟩
    obtain ⟨attrs', s', hattrs, hret⟩ := Prog.bind_eq_ret_iff.mp hret
    obtain rfl := Option.some.inj (Prog.pure_eq_ret_iff.mp hret).1
    exact (Prog.ofOption_eq_ret_iff.mp hattrs).1
  · intro hattrs
    rw [hattrs]
    exact ⟨_, rfl⟩

/-- **The attributes** that are read from a file are shares of the default values if and only if it has
them divided. -/
theorem readVfConfigFromFile_shares_iff {io : FileIo} {s : FileState} {content : String}
    {deviceId : UInt32} {layout : Layout} (hpos : 1 ≤ numVfs.toNat) (hle : numVfs.toNat ≤ 65535)
    (hpresent : io.onExists (io.findResourceFile vgpuConfFile) = .present)
    (hcontent : streamContent io s.contents (io.findResourceFile vgpuConfFile) = some content)
    (hwritten : Written (fileLines content) (sections.flatMap Section.items))
    (hlayout : layoutOf (deviceIdStr deviceId) numVfs sections = some layout) :
    (∃ attrs t, readVfConfigFromFile io deviceId numVfs s = (.ret (some attrs), t) ∧
      Shares numVfs.toNat layout.default layout.count attrs) ↔ layout.Divides numVfs.toNat := by
  rw [← vfConfigOf_shares_iff hpos hle hwritten hlayout]
  refine exists_congr fun attrs => ?_
  rw [exists_and_right, readVfConfigFromFile_ret_iff hpresent hcontent]

/-- The first section of the file that comes with the program. -/
def shippedSection : Section where
  names := [⟨"e211".toList, rfl, hex_of_all (by decide), none⟩,
    ⟨"e216".toList, rfl, hex_of_all (by decide), none⟩]
  names_ne := nofun
  settings := [.lmem 25367150592, .lmemEcc 21500002304, .contexts 1024, .doorbells 240, .ggtt 4026531840,
    .scheduler .flexibleBurstable]
  autoprobe := false

/-- A section for two functions. -/
def sectionOfTwo : Section where
  names := [⟨"e211".toList, rfl, hex_of_all (by decide), some 2⟩]
  names_ne := nofun
  settings := [.lmem 12000000000, .contexts 512]
  autoprobe := true

/-- All files are there. -/
def readableFiles : FileIo where
  onExists _ := .present
  onRead _ := .complete
  onWrite _ _ := .taken
  target := id
  findResourceFile := id

theorem readVfConfigFromFile_sectionOfTwo :
    ∃ attrs t, readVfConfigFromFile readableFiles 0xe211 2
        ⟨fun _ => printSections [shippedSection, sectionOfTwo], []⟩ = (.ret (some attrs), t) ∧
      Shares 2 shippedSection (some sectionOfTwo) attrs := by
  have hlayout : layoutOf (deviceIdStr 0xe211) 2 [shippedSection, sectionOfTwo] =
      some (.defaultFirst shippedSection sectionOfTwo) := rfl
  have hdivides : (Layout.defaultFirst shippedSection sectionOfTwo).Divides (2 : UInt32).toNat := by
    rw [Layout.Divides, if_neg (by decide)]
    intro field _
    cases field <;> decide
  exact (readVfConfigFromFile_shares_iff (by decide) (by decide) rfl rfl (written_printSections _)
    hlayout).mpr hdivides

/-- The file that comes with the program has only default sections, whose values are not divided. -/
theorem readVfConfigFromFile_shippedSection :
    Written (fileLines (printSections [shippedSection])) ([shippedSection].flatMap Section.items) ∧
      layoutOf (deviceIdStr 0xe211) 2 [shippedSection] = some (.defaultOnly shippedSection) ∧
      ¬ ∃ attrs t, readVfConfigFromFile readableFiles 0xe211 2
          ⟨fun _ => printSections [shippedSection], []⟩ = (.ret (some attrs), t) ∧
        Shares 2 shippedSection none attrs := by
  have hwritten := written_printSections [shippedSection]
  have hlayout : layoutOf (deviceIdStr 0xe211) 2 [shippedSection] =
      some (.defaultOnly shippedSection) := rfl
  refine ⟨hwritten, hlayout, ?_⟩
  rintro ⟨attrs, t, hret, hshares⟩
  have hattrs := (readVfConfigFromFile_ret_iff rfl rfl _ _ attrs).mp ⟨t, hret⟩
  have hdivides := (vfConfigOf_shares_iff (by decide) (by decide) hwritten hlayout).mp
    ⟨attrs, hattrs, hshares⟩
  exact absurd hdivides.2.1 (by decide)

end VfConfigFile

end XpuManager
