import Mathlib.Data.List.Infix
import XpuManager.Oal.VfConfig

/-! # Files with configurations of virtual functions

How `vgpu.conf` is written: in sections, each of which begins with the names that it is for and ends with
`DRIVERS_AUTOPROBE`. White space, empty lines and comments can be anywhere. -/

namespace XpuManager

namespace VfConfigFile

open Numerals

/-! ## Sections -/

/-- The name of a section: a device ID of four digits, and a number of functions, or none for the default
values. -/
structure SectionName where
  device : List Char
  length_eq : device.length = 4
  hex : ∀ c ∈ device, c ∈ "0123456789abcdef".toList
  count : Option (Fin 0x80000000)
  deriving DecidableEq

inductive Scheduler where
  | flexible30fps
  | fixed30fps
  | flexibleBurstable
  deriving DecidableEq

/-- A line of a section that sets an attribute. -/
inductive Setting where
  | lmem (v : UInt64)
  | lmemEcc (v : UInt64)
  | contexts (v : Fin 0x80000000)
  | doorbells (v : Fin 0x80000000)
  | ggtt (v : UInt64)
  | scheduler (scheduler : Scheduler)
  deriving DecidableEq

/-- A section of the file, with settings in any order. -/
structure Section where
  names : List SectionName
  names_ne : names ≠ []
  settings : List Setting
  autoprobe : Bool
  deriving DecidableEq

/-- What a line has, if it has anything. -/
inductive Item where
  | name (names : List SectionName) (h : names ≠ [])
  | setting (s : Setting)
  | autoprobe (on : Bool)

/-- The lines of a section. -/
def Section.items (s : Section) : List Item :=
  .name s.names s.names_ne :: s.settings.map .setting ++ [.autoprobe s.autoprobe]

/-! ## Their text -/

def SectionName.text (name : SectionName) : List Char :=
  name.device ++
    match name.count with
    | none => "DEF".toList
    | some n => 'N' :: Nat.toDigits 10 n

def Scheduler.text : Scheduler → List Char
  | flexible30fps => "Flexible_30fps_GPUTimeSlicing".toList
  | fixed30fps => "Fixed_30fps_GPUTimeSlicing".toList
  | flexibleBurstable => "Flexible_BurstableQoS_GPUTimeSlicing".toList

namespace Item

/-- What stands in front of the equals sign. -/
def key : Item → String
  | name _ _ => "NAME"
  | setting (.lmem _) => "VF_LMEM"
  | setting (.lmemEcc _) => "VF_LMEM_ECC"
  | setting (.contexts _) => "VF_CONTEXTS"
  | setting (.doorbells _) => "VF_DOORBELLS"
  | setting (.ggtt _) => "VF_GGTT"
  | setting (.scheduler _) => "VGPU_SCHEDULER"
  | autoprobe _ => "DRIVERS_AUTOPROBE"

/-- What stands behind the equals sign. -/
def value : Item → List Char
  | name names _ => [','].intercalate (names.map SectionName.text)
  | setting (.lmem v) | setting (.lmemEcc v) | setting (.ggtt v) => Nat.toDigits 10 v.toNat
  | setting (.contexts v) | setting (.doorbells v) => Nat.toDigits 10 v
  | setting (.scheduler scheduler) => scheduler.text
  | autoprobe on => if on then ['1'] else ['0']

/-- Only names have no comment behind them. -/
def MayHaveComment : Item → Prop
  | name _ _ => False
  | _ => True

/-- A line has an item, apart from white space and a comment. -/
def WrittenIn (item : Item) (line : List Char) : Prop :=
  ∃ comment, line.filter (fun c => !isSpace c) = item.key.toList ++ '=' :: (item.value ++ comment) ∧
    (comment = [] ∨ item.MayHaveComment ∧ comment.head? = some '#')

end Item

/-- The lines of a file have some items; the others are empty or comments. -/
inductive Written : List (List Char) → List Item → Prop where
  | nil : Written [] []
  | skip {line lines items} (h : ∀ c ∈ (line.filter fun c => !isSpace c).head?, c = '#')
      (rest : Written lines items) : Written (line :: lines) items
  | item {line lines item items} (h : item.WrittenIn line) (rest : Written lines items) :
      Written (line :: lines) (item :: items)

/-! ## What they mean -/

/-- A section for a device: the one with default values, or that of the number of functions. -/
inductive Kind where
  | default
  | count
  deriving DecidableEq

def SectionName.kind (device : List Char) (numVfs : UInt32) (name : SectionName) : Option Kind :=
  if name.device = device then
    match name.count with
    | none => some .default
    | some n => if UInt32.ofNat n = numVfs then some .count else none
  else none

/-- That of the first name that stands for a section of the device. -/
def kindOf (device : List Char) (numVfs : UInt32) (names : List SectionName) : Option Kind :=
  names.findSome? (SectionName.kind device numVfs)

/-- The key of a section, 0 for none. -/
def keyOf (numVfs : UInt32) : Option Kind → UInt32
  | none => 0
  | some .default => xpumMaxVfNum
  | some .count => numVfs

/-- A setting in a section. -/
def Setting.apply (id : UInt32) (attrs : AttrFromConfigFile) : Setting → AttrFromConfigFile
  | lmem v => { attrs with vfLmem := v }
  | lmemEcc v => { attrs with vfLmemEcc := v }
  | contexts v => { attrs with vfContexts := UInt32.ofNat v }
  | doorbells v => { attrs with vfDoorbells := UInt32.ofNat v }
  | ggtt v => { attrs with vfGgtt := v }
  | scheduler _ => schedulerParameters id.toInt32.toInt attrs

/-- What an item does; the flag says that no more is read. -/
def Item.run (device : List Char) (numVfs : UInt32) (st : ConfigState) : Item → Bool × ConfigState
  | name names _ => (false, { st with currentNameId := keyOf numVfs (kindOf device numVfs names) })
  | setting s => (false, st.set fun attrs => s.apply st.currentNameId attrs)
  | autoprobe on => (st.currentNameId ≠ 0 ∧ st.currentNameId ≠ xpumMaxVfNum,
      st.set fun attrs => { attrs with driversAutoprobe := on })

/-- What the lines make of the attributes. -/
def runItems (device : List Char) (numVfs : UInt32) : List Item → ConfigState → ConfigState
  | [], st => st
  | item :: items, st =>
    if (item.run device numVfs st).1 then (item.run device numVfs st).2
    else runItems device numVfs items (item.run device numVfs st).2

/-! ## Names are read -/

variable {device : List Char} {numVfs : UInt32} {name : SectionName} {names : List SectionName}

theorem hex_of_all (h : (device.all fun c => "0123456789abcdef".toList.contains c) = true) :
    ∀ c ∈ device, c ∈ "0123456789abcdef".toList := fun c hc =>
  List.contains_iff_mem.mp (List.all_eq_true.mp h c hc)

theorem SectionName.notMem_device (name : SectionName) {c : Char}
    (hc : c ∉ "0123456789abcdef".toList) : c ∉ name.device := fun h => hc (name.hex c h)

theorem mem_of_hasInfix {part cs : List Char} {c : Char} (hc : c ∈ part) (h : hasInfix part cs) :
    c ∈ cs := (hasInfix_iff.mp h).subset hc

theorem isDigit_of_mem {n : Nat} {c : Char} (hc : c ∈ Nat.toDigits 10 n) : c.isDigit :=
  Nat.isDigit_of_mem_toDigits (by decide) (by decide) hc

theorem SectionName.text_none (hcount : name.count = none) :
    name.text = name.device ++ "DEF".toList := by
  rw [text, hcount]

theorem SectionName.text_some {n : Fin 0x80000000} (hcount : name.count = some n) :
    name.text = name.device ++ 'N' :: Nat.toDigits 10 n := by
  rw [text, hcount]

theorem ofInt_natCast (n : Fin 0x80000000) : UInt32.ofInt ((n : Nat) : Int) = UInt32.ofNat n := by
  obtain ⟨n, hn⟩ := n
  have hmod : ((n : Int) % 2 ^ 32).toNat = n := by omega
  change UInt32.ofNat ((n : Int) % 2 ^ 32).toNat = UInt32.ofNat n
  rw [hmod]

/-- A name is of the default section if it says so. -/
theorem SectionName.hasInfix_text (name : SectionName) :
    hasInfix "DEF".toList name.text = true ↔ name.count = none := by
  cases hcount : name.count with
  | none =>
    rw [text_none hcount]
    refine iff_of_true (List.any_eq_true.mpr ⟨"DEF".toList, ?_, by decide⟩) rfl
    exact (List.mem_tails _ _).mpr (List.suffix_append _ _)
  | some n =>
    rw [text_some hcount]
    refine iff_of_false (fun h => ?_) nofun
    have hmem := mem_of_hasInfix (c := 'D') (by decide) h
    rcases List.mem_append.mp hmem with hmem | hmem
    · exact name.notMem_device (by decide) hmem
    · rcases List.mem_cons.mp hmem with heq | hmem
      · cases heq
      · exact absurd (isDigit_of_mem hmem) (by decide)

/-- Other characters than these are in no name. -/
theorem SectionName.notMem_text (name : SectionName) {c : Char} (hhex : c ∉ "0123456789abcdef".toList)
    (hdef : c ∉ "DEF".toList) (hn : c ≠ 'N') (hdigit : c.isDigit = false) : c ∉ name.text := by
  intro hmem
  cases hcount : name.count with
  | none =>
    rw [text_none hcount] at hmem
    exact (List.mem_append.mp hmem).elim (name.notMem_device hhex) hdef
  | some n =>
    rw [text_some hcount] at hmem
    rcases List.mem_append.mp hmem with hmem | hmem
    · exact name.notMem_device hhex hmem
    · refine (List.mem_cons.mp hmem).elim hn fun hmem => ?_
      exact Bool.noConfusion (hdigit.symm.trans (isDigit_of_mem hmem))

theorem SectionName.text_ne_nil (name : SectionName) : name.text ≠ [] := by
  intro hnil
  have hlength := name.length_eq
  rw [(List.append_eq_nil_iff.mp hnil).1] at hlength
  cases hlength

theorem SectionName.findIdx_text {n : Fin 0x80000000} (hcount : name.count = some n) :
    name.text.findIdx? (· = 'N') = some 4 := by
  have hnone : name.device.findIdx? (· = 'N') = none := by
    rw [List.findIdx?_eq_none_iff]
    intro c hc
    refine decide_eq_false fun heq => ?_
    exact name.notMem_device (by decide) (heq ▸ hc)
  rw [text_some hcount, List.findIdx?_append, hnone, List.findIdx?_cons, name.length_eq]
  rfl

/-- The key of a section, from the texts of its names. -/
theorem SectionName.sectionOf_texts (names : List SectionName) (current : UInt32)
    (h : names ≠ [] ∨ current = 0) :
    sectionOf device numVfs (names.map fun name => String.ofList name.text) current =
      some (keyOf numVfs (kindOf device numVfs names)) := by
  induction names generalizing current with
  | nil =>
    obtain rfl := h.resolve_left (· rfl)
    rfl
  | cons name names ih =>
    have htext : (String.ofList name.text).toList = name.text := String.toList_ofList
    rw [List.map_cons, sectionOf, htext]
    have hnext (hkind : name.kind device numVfs = none) :
        sectionOf device numVfs (names.map fun name => String.ofList name.text) 0 =
          some (keyOf numVfs (kindOf device numVfs (name :: names))) := by
      rw [ih 0 (.inr rfl), kindOf, kindOf, List.findSome?_cons, hkind]
    cases hcount : name.count with
    | none =>
      rw [if_pos (name.hasInfix_text.mpr hcount), text_none hcount]
      have hdrop : ((name.device ++ "DEF".toList).drop 4).take 3 = "DEF".toList := by
        rw [← name.length_eq, List.drop_left]
        rfl
      have htake : (name.device ++ "DEF".toList).take 4 = name.device := by
        rw [← name.length_eq, List.take_left]
      have hlength : 7 ≤ (name.device ++ "DEF".toList).length := by
        rw [List.length_append, name.length_eq]
        decide
      rw [hdrop, htake]
      split
      next hdevice =>
        rw [kindOf, List.findSome?_cons, SectionName.kind, if_pos hdevice.2.2, hcount]
        rfl
      next hdevice =>
        refine hnext ?_
        rw [SectionName.kind, if_neg fun heq => hdevice ⟨hlength, rfl, heq⟩]
    | some n =>
      rw [if_neg (fun h => by rw [name.hasInfix_text, hcount] at h; cases h),
        if_pos (name.findIdx_text hcount), text_some hcount]
      have hdrop : (name.device ++ 'N' :: Nat.toDigits 10 n).drop 5 = Nat.toDigits 10 n ++ [] := by
        simp [List.drop_append, name.length_eq]
      have htake : (name.device ++ 'N' :: Nat.toDigits 10 n).take 4 = name.device := by
        rw [← name.length_eq, List.take_left]
      have hnone : ∀ c ∈ ([] : List Char).head?, digit 10 c = none := nofun
      rw [hdrop, htake, stoi_append n.isLt hnone]
      dsimp only
      rw [ofInt_natCast]
      split
      next hdevice =>
        rw [kindOf, List.findSome?_cons, SectionName.kind, if_pos hdevice.1, hcount]
        dsimp only
        rw [if_pos hdevice.2, hdevice.2]
        rfl
      next hdevice =>
        refine hnext ?_
        rw [SectionName.kind, hcount]
        split
        next heq => exact if_neg fun hnum => hdevice ⟨heq, hnum⟩
        next => rfl

/-! ## Lines are read -/

/-- A line `key=value` is read as this key and value, blanks left out. -/
theorem configLine_eq {st : ConfigState} {line : List Char} {key : String} {value : List Char}
    (hline : line.filter (fun c => !isSpace c) = key.toList ++ '=' :: value)
    (hkey : '=' ∉ key.toList) (hhash : ∀ c ∈ key.toList.head?, c ≠ '#') (hne : key.toList ≠ [])
    (hvalue : value ≠ []) :
    configLine device numVfs st line = configEntry device numVfs st key (String.ofList value) := by
  obtain ⟨c, cs, hkeyChars⟩ := List.exists_cons_of_ne_nil hne
  obtain ⟨v, vs, rfl⟩ := List.exists_cons_of_ne_nil hvalue
  have hspan : (key.toList ++ '=' :: v :: vs).span (· ≠ '=') = (key.toList, '=' :: v :: vs) := by
    have hall : ∀ c ∈ key.toList, decide (c ≠ '=') = true := fun c hc =>
      decide_eq_true fun heq => hkey (heq ▸ hc)
    rw [List.span_eq_takeWhile_dropWhile, List.takeWhile_append_of_pos hall,
      List.dropWhile_append_of_pos hall]
    simp
  unfold configLine
  dsimp only
  rw [hline]
  split
  next heq => simp at heq
  next rest heq =>
    rw [hkeyChars, List.cons_append] at heq
    exact absurd (List.cons.inj heq).1 (hhash c (by rw [hkeyChars]; rfl))
  next =>
    rw [hspan]
    dsimp only
    rw [String.ofList_toList]

/-- A number is read in spite of a comment. -/
theorem digit_comment {comment : List Char} {P : Prop}
    (h : comment = [] ∨ P ∧ comment.head? = some '#') : ∀ c ∈ comment.head?, digit 10 c = none := by
  intro c hc
  rcases h with rfl | ⟨-, hhead⟩
  · cases hc
  · rw [hhead, Option.mem_some_iff] at hc
    subst hc
    decide

theorem split_texts (hne : names ≠ []) :
    split (String.ofList ([','].intercalate (names.map SectionName.text))) ',' =
      names.map fun name => String.ofList name.text := by
  have hcomma : ∀ text ∈ names.map SectionName.text, ',' ∉ text := by
    rintro _ htext hmem
    obtain ⟨name, -, rfl⟩ := List.mem_map.mp htext
    exact name.notMem_text (by decide) (by decide) (by decide) rfl hmem
  have hfull : (names.map SectionName.text).filter (fun part => part ≠ []) =
      names.map SectionName.text := by
    rw [List.filter_eq_self]
    rintro _ htext
    obtain ⟨name, -, rfl⟩ := List.mem_map.mp htext
    exact decide_eq_true name.text_ne_nil
  rw [split, String.toList_ofList, List.splitOn_intercalate ',' hcomma (by simpa using hne), hfull,
    List.map_map]
  rfl

/-- An item does the same whether a comment follows it or not. -/
theorem configEntry_item (st : ConfigState) (item : Item) {comment : List Char}
    (h : comment = [] ∨ item.MayHaveComment ∧ comment.head? = some '#') :
    configEntry device numVfs st item.key (String.ofList (item.value ++ comment)) =
      some (item.run device numVfs st) := by
  have hdigit := digit_comment h
  cases item with
  | name names hne =>
    obtain rfl := h.resolve_right fun h => h.1
    have hsection : sectionOf device numVfs (names.map fun name => String.ofList name.text)
        st.currentNameId = some (keyOf numVfs (kindOf device numVfs names)) :=
      SectionName.sectionOf_texts names st.currentNameId (.inl hne)
    simp [configEntry, Item.key, Item.value, Item.run, split_texts hne, hsection]
  | setting s =>
    by_cases hzero : st.currentNameId = 0
    · cases s <;> simp [configEntry, Item.key, Item.run, ConfigState.set, hzero]
    · cases s with
      | lmem v =>
        simp [-String.ofList_append, configEntry, Item.key, Item.value, Item.run, hzero,
          stoul_append v hdigit, Setting.apply]
      | lmemEcc v =>
        simp [-String.ofList_append, configEntry, Item.key, Item.value, Item.run, hzero,
          stoul_append v hdigit, Setting.apply]
      | contexts v =>
        simp [-String.ofList_append, configEntry, Item.key, Item.value, Item.run, hzero,
          stoi_append v.isLt hdigit, ofInt_natCast, Setting.apply]
      | doorbells v =>
        simp [-String.ofList_append, configEntry, Item.key, Item.value, Item.run, hzero,
          stoi_append v.isLt hdigit, ofInt_natCast, Setting.apply]
      | ggtt v =>
        simp [-String.ofList_append, configEntry, Item.key, Item.value, Item.run, hzero,
          stoul_append v hdigit, Setting.apply]
      | scheduler scheduler =>
        simp [configEntry, Item.key, Item.run, hzero, Setting.apply, ConfigState.set,
          updateVgpuSchedulerConfigParameters]
  | autoprobe on =>
    by_cases hzero : st.currentNameId = 0
    · simp [configEntry, Item.key, Item.run, ConfigState.set, hzero]
    · cases on with
      | false =>
        have hvalue : stoi (String.ofList ((Item.autoprobe false).value ++ comment)) = some 0 :=
          stoi_append (n := 0) (by decide) hdigit
        simp [-String.ofList_append, configEntry, Item.key, Item.run, hzero, hvalue]
      | true =>
        have hvalue : stoi (String.ofList ((Item.autoprobe true).value ++ comment)) = some 1 :=
          stoi_append (n := 1) (by decide) hdigit
        simp [-String.ofList_append, configEntry, Item.key, Item.run, hzero, hvalue]

theorem value_ne_nil (item : Item) : item.value ≠ [] := by
  cases item with
  | name names hne =>
    obtain ⟨name, rest, rfl⟩ := List.exists_cons_of_ne_nil hne
    rw [Item.value, List.map_cons]
    cases rest with
    | nil =>
      rw [List.map_nil, List.intercalate_singleton]
      exact name.text_ne_nil
    | cons other rest =>
      rw [List.map_cons, List.intercalate_cons_cons]
      exact fun hnil => name.text_ne_nil (List.append_eq_nil_iff.mp (List.append_eq_nil_iff.mp hnil).1).1
  | setting s =>
    cases s with
    | scheduler scheduler => cases scheduler <;> decide
    | _ => exact Nat.toDigits_ne_nil
  | autoprobe on => cases on <;> decide

/-- **A line does what its item does.** -/
theorem configLine_of_writtenIn {item : Item} {line : List Char} (h : item.WrittenIn line)
    (st : ConfigState) : configLine device numVfs st line = some (item.run device numVfs st) := by
  obtain ⟨comment, hline, hcomment⟩ := h
  have hvalue : item.value ++ comment ≠ [] := fun hnil =>
    value_ne_nil item (List.append_eq_nil_iff.mp hnil).1
  have hkey : '=' ∉ item.key.toList ∧ (∀ c ∈ item.key.toList.head?, c ≠ '#') ∧ item.key.toList ≠ [] := by
    cases item with
    | setting s => cases s <;> simp [Item.key]
    | _ => simp [Item.key]
  rw [configLine_eq hline hkey.1 hkey.2.1 hkey.2.2 hvalue]
  exact configEntry_item st item hcomment

/-- **The code reads the items** that a file has. -/
theorem configLines_of_written {lines : List (List Char)} {items : List Item}
    (h : Written lines items) (st : ConfigState) :
    configLines device numVfs lines st = some (runItems device numVfs items st) := by
  induction h generalizing st with
  | nil => rfl
  | @skip line lines items hskip rest ih =>
    have hline : configLine device numVfs st line = some (false, st) := by
      unfold configLine
      dsimp only
      split
      next => rfl
      next => rfl
      next hnil hhash =>
        obtain ⟨c, cs, hcs⟩ := List.exists_cons_of_ne_nil hnil
        rw [hcs] at hskip hhash
        obtain rfl : c = '#' := hskip c rfl
        exact absurd rfl (hhash cs)
    rw [configLines, hline]
    exact ih st
  | item hitem rest ih =>
    rw [configLines, configLine_of_writtenIn hitem, runItems]
    split
    next hnone => cases hnone
    next st' hstop =>
      rw [Option.some_inj] at hstop
      rw [hstop, if_pos rfl]
    next st' hgo =>
      rw [Option.some_inj] at hgo
      rw [hgo, if_neg nofun]
      exact ih st'

/-! ## Sections can be written -/

/-- An item on a line of its own, without white space or a comment. -/
def Item.line (item : Item) : List Char := item.key.toList ++ '=' :: item.value

/-- A file with some sections. -/
def printSections (sections : List Section) : String :=
  String.ofList ((sections.flatMap Section.items).flatMap fun item => item.line ++ ['\n'])

theorem not_isSpace_of_all {text : List Char} (h : (text.all fun c => !isSpace c) = true) :
    ∀ c ∈ text, isSpace c = false := by
  simpa using h

theorem SectionName.not_isSpace_text (name : SectionName) {c : Char} (hc : c ∈ name.text) :
    isSpace c = false := by
  have hdevice (hc : c ∈ name.device) : isSpace c = false :=
    not_isSpace_of_all (by decide) c (name.hex c hc)
  cases hcount : name.count with
  | none =>
    rw [text_none hcount] at hc
    exact (List.mem_append.mp hc).elim hdevice (not_isSpace_of_all (by decide) c)
  | some n =>
    rw [text_some hcount] at hc
    rcases List.mem_append.mp hc with hc | hc
    · exact hdevice hc
    · rcases List.mem_cons.mp hc with rfl | hc
      · decide
      · exact not_isSpace_of_isDigit (isDigit_of_mem hc)

theorem not_isSpace_intercalate {texts : List (List Char)}
    (h : ∀ text ∈ texts, ∀ c ∈ text, isSpace c = false) :
    ∀ c ∈ [','].intercalate texts, isSpace c = false := by
  induction texts with
  | nil => nofun
  | cons text texts ih =>
    rw [List.forall_mem_cons] at h
    cases texts with
    | nil =>
      rw [List.intercalate_singleton]
      exact h.1
    | cons other texts =>
      rw [List.intercalate_cons_cons]
      intro c hc
      rcases List.mem_append.mp hc with hc | hc
      · refine (List.mem_append.mp hc).elim (h.1 c) fun hc => ?_
        rw [List.mem_singleton.mp hc]
        decide
      · exact ih h.2 c hc

theorem Item.not_isSpace_line (item : Item) : ∀ c ∈ item.line, isSpace c = false := by
  have hkey : ∀ c ∈ item.key.toList, isSpace c = false := by
    cases item with
    | setting s => cases s <;> exact not_isSpace_of_all (by rw [Item.key]; decide)
    | _ => exact not_isSpace_of_all (by rw [Item.key]; decide)
  have hdigits (n : Nat) : ∀ c ∈ Nat.toDigits 10 n, isSpace c = false := fun c hc =>
    not_isSpace_of_isDigit (isDigit_of_mem hc)
  have hvalue : ∀ c ∈ item.value, isSpace c = false := by
    cases item with
    | name names hne =>
      refine not_isSpace_intercalate fun text htext => ?_
      obtain ⟨name, -, rfl⟩ := List.mem_map.mp htext
      exact fun c => name.not_isSpace_text
    | setting s =>
      cases s with
      | scheduler scheduler => cases scheduler <;> exact not_isSpace_of_all (by decide)
      | _ => exact hdigits _
    | autoprobe on => cases on <;> exact not_isSpace_of_all (by decide)
  intro c hc
  rcases List.mem_append.mp hc with hc | hc
  · exact hkey c hc
  · rcases List.mem_cons.mp hc with rfl | hc
    · decide
    · exact hvalue c hc

theorem Item.writtenIn_line (item : Item) : item.WrittenIn item.line := by
  refine ⟨[], ?_, .inl rfl⟩
  rw [List.append_nil]
  refine List.filter_eq_self.mpr fun c hc => ?_
  rw [item.not_isSpace_line c hc]
  rfl

theorem splitOn_lines {lines : List (List Char)} (h : ∀ line ∈ lines, '\n' ∉ line) :
    (lines.flatMap fun line => line ++ ['\n']).splitOn '\n' = lines ++ [[]] := by
  induction lines with
  | nil => rfl
  | cons line lines ih =>
    rw [List.forall_mem_cons] at h
    rw [List.flatMap_cons, List.append_assoc, List.singleton_append, List.splitOn_append_cons_self,
      List.splitOn_eq_singleton h.1, ih h.2]
    rfl

/-- Lines that are written are read. -/
theorem fileLines_lines {lines : List (List Char)} (h : ∀ line ∈ lines, '\n' ∉ line) :
    fileLines (String.ofList (lines.flatMap fun line => line ++ ['\n'])) = lines := by
  rw [fileLines, String.toList_ofList, splitOn_lines h]
  simp

theorem written_lines (items : List Item) : Written (items.map Item.line) items := by
  induction items with
  | nil => exact .nil
  | cons item items ih => exact .item item.writtenIn_line ih

/-- **Sections can be written** in any order. -/
theorem written_printSections (sections : List Section) :
    Written (fileLines (printSections sections)) (sections.flatMap Section.items) := by
  have hlines : printSections sections = String.ofList
      (((sections.flatMap Section.items).map Item.line).flatMap fun line => line ++ ['\n']) := by
    rw [printSections, List.flatMap_map]
  rw [hlines, fileLines_lines]
  · exact written_lines _
  · intro line hline hmem
    obtain ⟨item, -, rfl⟩ := List.mem_map.mp hline
    cases item.not_isSpace_line _ hmem

end VfConfigFile

end XpuManager
