import XpuManager.Oal.PciExceptions

/-! # The list of PCI devices

`pci.ids` is a list of vendors with their devices and the subsystems of these, and of device classes.
Its lines are of a few kinds; which of them may follow depends on the section that is open. -/

namespace XpuManager

namespace PciDatabase

open Numerals

/-! ## The format -/

/-- An ID of `n` hexadecimal digits. -/
structure HexId (n : Nat) where
  digits : List Char
  length_eq : digits.length = n
  hex : ∀ c ∈ digits, (digit 16 c).isSome

def HexId.value {n : Nat} (id : HexId n) : Int := ofDigits 16 0 (leadingDigits 16 id.digits)

/-- A name, with the spaces in front of it: there is one, and `gap` more. -/
structure Name where
  gap : Nat := 1
  text : List Char
  head : Char
  head_eq : text.head? = some head
  head_ne : ¬ isBlankSpace head

def Name.written (name : Name) : List Char := ' ' :: (List.replicate name.gap ' ' ++ name.text)

/-- The kinds of lines of the database, and how they are written. -/
inductive PciLine where
  | blank
  | comment (indent : List Char) (blanks : ∀ c ∈ indent, isBlankSpace c) (text : List Char)
  | vendor (id : HexId 4) (name : Name)
  | device (id : HexId 4) (name : Name)
  | subsystem (subVendor subDevice : HexId 4) (name : Name)
  | deviceClass (id : HexId 2) (name : Name)
  | subclass (id : HexId 2) (name : Name)
  | progIf (id : HexId 2) (name : Name)

namespace PciLine

/-- How a line is written. -/
def text : PciLine → List Char
  | blank => []
  | comment indent _ text => indent ++ '#' :: text
  | vendor id name => id.digits ++ name.written
  | device id name => '\t' :: (id.digits ++ name.written)
  | subsystem subVendor subDevice name =>
    '\t' :: '\t' :: (subVendor.digits ++ ' ' :: (subDevice.digits ++ name.written))
  | deviceClass id name => 'C' :: ' ' :: (id.digits ++ name.written)
  | subclass id name => '\t' :: (id.digits ++ name.written)
  | progIf id name => '\t' :: '\t' :: (id.digits ++ name.written)

end PciLine

/-- What is open at a line. -/
inductive Section where
  | none
  | vendor (vendor : Int)
  | device (vendor device : Int)
  | deviceClass
  | subclass

/-- The section behind a line; `none` where the line may not stand. -/
def Section.next : Section → PciLine → Option Section
  | s, .blank => some s
  | s, .comment .. => some s
  | _, .vendor id _ => some (.vendor id.value)
  | .vendor v, .device id _ => some (.device v id.value)
  | .device v _, .device id _ => some (.device v id.value)
  | .device v d, .subsystem .. => some (.device v d)
  | _, .deviceClass .. => some .deviceClass
  | .deviceClass, .subclass .. => some .subclass
  | .subclass, .subclass .. => some .subclass
  | .subclass, .progIf .. => some .subclass
  | _, _ => Option.none

/-- The device that a line names, and its name there. -/
def Section.name : Section → PciLine → Option ((Int × Int) × List Char)
  | .vendor v, .device id name => some ((v, id.value), name.text)
  | .device v _, .device id name => some ((v, id.value), name.text)
  | .device v d, .subsystem _ _ name => some ((v, d), name.text)
  | _, _ => Option.none

/-- The names of the devices: their own, and those of their subsystems. -/
def names : Section → List PciLine → List ((Int × Int) × List Char)
  | _, [] => []
  | s, line :: lines =>
    (s.name line).toList ++ (s.next line).elim [] fun t => names t lines

/-- Every line stands where it may, and its length is an `int`. -/
structure WellFormed (lines : List PciLine) : Prop where
  placed : (Runs.follow Section.next .none lines).isSome
  short : ∀ line ∈ lines, line.text.length < 0x80000000

/-- A name has the word in it, between blanks or the ends. -/
def HasWord (name : List Char) : Prop :=
  ∃ before after, name = before ++ "Switch".toList ++ after ∧
    (∀ c ∈ before.getLast?, isBlankSpace c) ∧ ∀ c ∈ after.head?, isBlankSpace c

/-- The database has the devices with the word in one of their names, as switches. -/
def ListsSwitches (lines : List PciLine) (devices : Devices) : Prop :=
  (∀ pair, (devices pair).isSome ↔ ∃ name, (pair, name) ∈ names .none lines ∧ HasWord name) ∧
    ∀ pair device, devices pair = some device → device.type = .switch

/-! ## The parts of a line -/

theorem HexId.value_nonneg {n : Nat} (id : HexId n) : 0 ≤ id.value := Int.natCast_nonneg _

theorem not_isBlankSpace_of_hex {c : Char} (h : (digit 16 c).isSome) : isBlankSpace c = false := by
  have hspace : c ≠ ' ' := ne_of_digit h rfl
  have htab : c ≠ '\t' := ne_of_digit h rfl
  simp [isBlankSpace, hspace, htab]

/-- An ID has a second digit, so that no ID is taken for the header of a section. -/
theorem HexId.exists_cons {n : Nat} (id : HexId n) (hn : 1 < n) :
    ∃ c d rest, id.digits = c :: d :: rest ∧ (digit 16 c).isSome ∧ (digit 16 d).isSome := by
  have hlen := id.length_eq
  match hdigits : id.digits with
  | [] => rw [hdigits] at hlen; simp at hlen; omega
  | [_] => rw [hdigits] at hlen; simp at hlen; omega
  | c :: d :: rest =>
    refine ⟨c, d, rest, rfl, id.hex c ?_, id.hex d ?_⟩
    · simp [hdigits]
    · simp [hdigits]

theorem HexId.number_digits {n : Nat} (id : HexId n) (hn : 1 < n) :
    number id.digits = some id.value := by
  obtain ⟨c, d, rest, hdigits, -⟩ := id.exists_cons hn
  exact parseInt_of_hex (by rw [hdigits]; exact List.cons_ne_nil c _) id.hex

theorem HexId.stoi16_digits {n : Nat} (id : HexId n) (hn : 1 < n) (hfour : n ≤ 4) :
    stoi16 id.digits = some id.value := by
  rw [stoi16_of_length_le (by rw [id.length_eq]; exact hfour), id.number_digits hn]

/-- An ID is read where it is written, with the character behind it. -/
theorem HexId.idAt_eq {n : Nat} (id : HexId n) (hn : 1 < n) (hfour : n ≤ 4) (front rest : List Char)
    (c : Char) :
    idAt (front ++ (id.digits ++ c :: rest)) front.length n = some (id.value, isBlankSpace c) := by
  have hdigits : ((front ++ (id.digits ++ c :: rest)).drop front.length).take n = id.digits := by
    rw [List.drop_left, List.take_left' id.length_eq]
  have hbehind : (front ++ (id.digits ++ c :: rest))[front.length + n]? = some c := by
    rw [List.getElem?_append_right (Nat.le_add_right _ _), Nat.add_sub_cancel_left,
      List.getElem?_append_right (Nat.le_of_eq id.length_eq), id.length_eq, Nat.sub_self]
    rfl
  have hpos : front.length ≤ (front ++ (id.digits ++ c :: rest)).length := by
    rw [List.length_append]
    exact Nat.le_add_right _ _
  simp only [idAt, substr_of_le hpos, Option.bind_eq_bind, Option.bind_some, hdigits,
    id.stoi16_digits hn hfour, id.value_nonneg, if_true, hbehind, Option.map_some]

/-- The spaces in front of a name are not part of it. -/
theorem Name.nameFrom_eq (name : Name) (front : List Char) :
    nameFrom (front ++ name.written) (front.length + 1) = some name.text := by
  obtain ⟨rest, htext⟩ := List.head?_eq_some_iff.mp name.head_eq
  have hspace : name.head ≠ ' ' := by
    intro hhead
    exact name.head_ne (by rw [hhead]; rfl)
  have hdrop : (front ++ name.written).drop (front.length + 1) =
      List.replicate name.gap ' ' ++ name.text := by
    rw [List.drop_append, Name.written]
    simp
  have hle : front.length + 1 ≤ (front ++ name.written).length := by
    rw [List.length_append, Name.written, List.length_cons]
    omega
  rw [nameFrom, substrFrom, if_pos hle, Option.map_some, hdrop,
    List.dropWhile_append_of_pos (fun c hc => by rw [List.eq_of_mem_replicate hc]; rfl), htext,
    List.dropWhile_cons_of_neg (by simpa using hspace)]

theorem Name.text_ne_nil (name : Name) : name.text ≠ [] := by
  obtain ⟨rest, htext⟩ := List.head?_eq_some_iff.mp name.head_eq
  rw [htext]
  exact List.cons_ne_nil _ _

theorem Name.length_written (name : Name) : 2 ≤ name.written.length := by
  have hpos := List.length_pos_of_ne_nil name.text_ne_nil
  rw [Name.written, List.length_cons, List.length_append]
  omega

/-! ## What the parser makes of a line -/

theorem intLen_of_lt {info : List Char} (h : info.length < 0x80000000) :
    intLen info = info.length := by
  have hsize : Int32.size = 0x100000000 := rfl
  rw [intLen, Int32.toInt_ofNat', Int.bmod_eq_emod, hsize]
  split <;> omega

/-- The level of a line that is not a comment. -/
theorem parseLine_of_level (st : PciParse) {info rest : List Char} (level : Nat) {c : Char}
    (hinfo : info = List.replicate level '\t' ++ c :: rest) (hblank : isBlankSpace c = false)
    (hcomment : c ≠ '#') :
    parseLine st info = parseAtLevel st info level := by
  have htab : ∀ d ∈ List.replicate level '\t', d = '\t' := fun d hd => List.eq_of_mem_replicate hd
  have hne : info ≠ [] := by
    rw [hinfo]
    exact List.append_ne_nil_of_right_ne_nil _ (List.cons_ne_nil c rest)
  have hline : ¬ lineIsComment info := by
    rw [lineIsComment, hinfo, List.dropWhile_append_of_pos (fun d hd => by rw [htab d hd]; rfl),
      List.dropWhile_cons_of_neg (by rw [hblank]; decide)]
    simpa using hcomment
  have hlevel : (info.takeWhile (· = '\t')).length = level := by
    have hc : c ≠ '\t' := by
      rintro rfl
      cases hblank
    rw [hinfo, List.takeWhile_append_of_pos (fun d hd => decide_eq_true (htab d hd)),
      List.takeWhile_cons_of_neg (by simpa using hc), List.append_nil, List.length_replicate]
  rw [parseLine, if_neg hne, if_neg hline, hlevel]

section Lines

variable (st : PciParse)

theorem parseLine_comment (indent text : List Char) (blanks : ∀ c ∈ indent, isBlankSpace c) :
    parseLine st (PciLine.comment indent blanks text).text = some st := by
  have hcomment : lineIsComment (PciLine.comment indent blanks text).text := by
    rw [lineIsComment, PciLine.text, List.dropWhile_append_of_pos blanks]
    rfl
  rw [parseLine, if_pos hcomment]
  split <;> rfl

/-- A well-formed vendor line is read as it is written. -/
theorem parseLine_vendor (id : HexId 4) (name : Name)
    (hshort : (PciLine.vendor id name).text.length < 0x80000000) :
    parseLine st (PciLine.vendor id name).text =
      some { st with
        bResult := true
        vendorId := id.value
        deviceId := -1
        subVendorId := -1
        subDeviceId := -1
        idtype := .vendor } := by
  obtain ⟨c, d, rest, hdigits, hc, hd⟩ := id.exists_cons (by decide)
  have htext : (PciLine.vendor id name).text = c :: d :: (rest ++ name.written) := by
    rw [PciLine.text, hdigits]
    rfl
  have hlen : 5 < intLen (PciLine.vendor id name).text := by
    have hname := name.length_written
    rw [intLen_of_lt hshort, PciLine.text, List.length_append, id.length_eq]
    omega
  have hheader : isHeader (PciLine.vendor id name).text (intLen (PciLine.vendor id name).text) c =
      some false := by
    rw [htext, isHeader_of_cons]
    simp [Headed, not_isBlankSpace_of_hex hd]
  have hid : idAt (PciLine.vendor id name).text 0 4 = some (id.value, true) :=
    id.idAt_eq (by decide) (by decide) [] _ ' '
  have hlevel : parseLevel0 (PciLine.vendor id name).text (intLen (PciLine.vendor id name).text)
      st.idtype st.vendorId 0 = some ⟨true, .vendor, id.value, 5⟩ := by
    have hfirst : (PciLine.vendor id name).text[0]? = some c := by rw [htext]; rfl
    simp [parseLevel0, hfirst, hheader, hlen, hid]
  have hname : nameFrom (PciLine.vendor id name).text 5 = some name.text := by
    have hname := name.nameFrom_eq id.digits
    rwa [id.length_eq] at hname
  rw [parseLine_of_level st 0 htext (not_isBlankSpace_of_hex hc) (ne_of_digit hc rfl), parseAtLevel,
    parseLine0, hlevel, Option.bind_eq_bind, Option.bind_some, hname]
  rfl

/-- The same for a device line, under its vendor. -/
theorem parseLine_device (id : HexId 4) (name : Name)
    (hshort : (PciLine.device id name).text.length < 0x80000000)
    (htype : st.idtype = .vendor ∨ st.idtype = .device ∨ st.idtype = .subSys) :
    parseLine st (PciLine.device id name).text =
      some { st with
        bResult := true
        deviceId := id.value
        subVendorId := -1
        subDeviceId := -1
        deviceName := name.text
        idtype := .device : PciParse }.addDevice := by
  obtain ⟨c, d, rest, hdigits, hc, -⟩ := id.exists_cons (by decide)
  have htext : (PciLine.device id name).text = '\t' :: c :: d :: (rest ++ name.written) := by
    rw [PciLine.text, hdigits]
    rfl
  have hlen : 6 < intLen (PciLine.device id name).text := by
    have hname := name.length_written
    rw [intLen_of_lt hshort, PciLine.text, List.length_cons, List.length_append, id.length_eq]
    omega
  have hid : idAt (PciLine.device id name).text 1 4 = some (id.value, true) :=
    id.idAt_eq (by decide) (by decide) ['\t'] _ ' '
  have hlevel : parseLevel1 (PciLine.device id name).text (intLen (PciLine.device id name).text)
      st.idtype (-1) 1 = some ⟨true, .device, id.value, 6⟩ := by
    obtain htype | htype | htype := htype <;> simp [parseLevel1, htype, hlen, hid]
  have hname : nameFrom (PciLine.device id name).text 6 = some name.text := by
    have hname := name.nameFrom_eq ('\t' :: id.digits)
    rwa [List.length_cons, id.length_eq] at hname
  rw [parseLine_of_level st 1 htext (not_isBlankSpace_of_hex hc) (ne_of_digit hc rfl), parseAtLevel,
    parseLine1, hlevel, Option.bind_eq_bind, Option.bind_some, hname]
  rfl

/-- The same for a subsystem line, under its device. -/
theorem parseLine_subsystem (subVendor subDevice : HexId 4) (name : Name)
    (hshort : (PciLine.subsystem subVendor subDevice name).text.length < 0x80000000)
    (htype : st.idtype = .device ∨ st.idtype = .subSys) :
    parseLine st (PciLine.subsystem subVendor subDevice name).text =
      some { st with
        bResult := true
        subVendorId := subVendor.value
        subDeviceId := subDevice.value
        subsystemName := name.text
        idtype := .subSys : PciParse }.addDevice := by
  obtain ⟨c, d, rest, hdigits, hc, -⟩ := subVendor.exists_cons (by decide)
  have hfront : ('\t' :: '\t' :: (subVendor.digits ++ [' '])).length = 7 := by
    simp [subVendor.length_eq]
  have htext : (PciLine.subsystem subVendor subDevice name).text =
      '\t' :: '\t' :: c :: d :: (rest ++ ' ' :: (subDevice.digits ++ name.written)) := by
    rw [PciLine.text, hdigits]
    rfl
  have hsplit : (PciLine.subsystem subVendor subDevice name).text =
      '\t' :: '\t' :: (subVendor.digits ++ [' ']) ++ (subDevice.digits ++ name.written) := by
    simp [PciLine.text]
  have hlen : 12 < intLen (PciLine.subsystem subVendor subDevice name).text := by
    have hname := name.length_written
    rw [intLen_of_lt hshort, hsplit, List.length_append, hfront, List.length_append,
      subDevice.length_eq]
    omega
  have hsubVendor : idAt (PciLine.subsystem subVendor subDevice name).text 2 4 =
      some (subVendor.value, true) :=
    subVendor.idAt_eq (by decide) (by decide) ['\t', '\t'] _ ' '
  have hsubDevice : idAt (PciLine.subsystem subVendor subDevice name).text 7 4 =
      some (subDevice.value, true) := by
    have hid := subDevice.idAt_eq (by decide) (by decide)
      ('\t' :: '\t' :: (subVendor.digits ++ [' '])) (List.replicate name.gap ' ' ++ name.text) ' '
    rwa [hfront, ← Name.written, ← hsplit] at hid
  have hlevel : parseLevel2 (PciLine.subsystem subVendor subDevice name).text
      (intLen (PciLine.subsystem subVendor subDevice name).text) st.idtype (-1) (-1) 2 =
      some ⟨true, .subSys, subVendor.value, subDevice.value, 12⟩ := by
    obtain htype | htype := htype <;> simp [parseLevel2, htype, hlen, hsubVendor, hsubDevice]
  have hname : nameFrom (PciLine.subsystem subVendor subDevice name).text 12 = some name.text := by
    have hname := name.nameFrom_eq ('\t' :: '\t' :: (subVendor.digits ++ [' ']) ++ subDevice.digits)
    rwa [List.length_append, hfront, subDevice.length_eq, List.append_assoc, ← hsplit] at hname
  rw [parseLine_of_level st 2 htext (not_isBlankSpace_of_hex hc) (ne_of_digit hc rfl), parseAtLevel,
    parseLine2, hlevel, Option.bind_eq_bind, Option.bind_some, hname]
  rfl

/-- The lines of a class add nothing. -/
theorem parseLine_deviceClass (id : HexId 2) (name : Name)
    (hshort : (PciLine.deviceClass id name).text.length < 0x80000000) :
    ∃ st', parseLine st (PciLine.deviceClass id name).text = some st' ∧
      st'.idtype = .knownDClass ∧ st'.devices = st.devices := by
  have hlen : 5 < intLen (PciLine.deviceClass id name).text := by
    have hname := name.length_written
    rw [intLen_of_lt hshort, PciLine.text, List.length_cons, List.length_cons, List.length_append,
      id.length_eq]
    omega
  have hheader : isHeader (PciLine.deviceClass id name).text
      (intLen (PciLine.deviceClass id name).text) 'C' = some true := by
    have htwo : 2 ≤ intLen (PciLine.deviceClass id name).text := by omega
    rw [isHeader, if_pos ⟨by decide, htwo⟩]
    rfl
  have hdigits : substr (PciLine.deviceClass id name).text 2 2 = some id.digits := by
    have hle : 2 ≤ (PciLine.deviceClass id name).text.length := by
      rw [PciLine.text, List.length_cons, List.length_cons]
      omega
    rw [substr_of_le hle]
    exact congrArg some (List.take_left' id.length_eq)
  have hread := id.stoi16_digits (by decide) (by decide)
  have hlevel : parseLevel0 (PciLine.deviceClass id name).text
      (intLen (PciLine.deviceClass id name).text) st.idtype st.vendorId 0 =
      some ⟨true, .knownDClass, id.value, 5⟩ := by
    have hfirst : (PciLine.deviceClass id name).text[0]? = some 'C' := rfl
    simp [parseLevel0, hfirst, hheader, hlen, hdigits, hread, id.value_nonneg]
  obtain ⟨vendorName, hname⟩ := Option.isSome_iff_exists.mp
    (nameFrom_isSome_iff.mpr (idx_of_parseLevel0 hlevel))
  have htext : (PciLine.deviceClass id name).text = 'C' :: ' ' :: (id.digits ++ name.written) := rfl
  rw [parseLine_of_level st 0 htext rfl (by decide), parseAtLevel, parseLine0, hlevel,
    Option.bind_eq_bind, Option.bind_some, hname]
  exact ⟨_, rfl, rfl, rfl⟩

theorem parseLine_subclass (id : HexId 2) (name : Name) (htype : st.idtype = .knownDClass) :
    ∃ st', parseLine st (PciLine.subclass id name).text = some st' ∧
      st'.idtype = .knownDClass ∧ st'.devices = st.devices := by
  obtain ⟨c, d, rest, hdigits, hc, -⟩ := id.exists_cons (by decide)
  have htext : (PciLine.subclass id name).text = '\t' :: c :: d :: (rest ++ name.written) := by
    rw [PciLine.text, hdigits]
    rfl
  have hid : idAt (PciLine.subclass id name).text 1 2 = some (id.value, true) :=
    id.idAt_eq (by decide) (by decide) ['\t'] _ ' '
  have hlevel : parseLevel1 (PciLine.subclass id name).text (intLen (PciLine.subclass id name).text)
      st.idtype (-1) 1 = some ⟨true, .knownDClass, id.value, 4⟩ := by
    simp [parseLevel1, htype, hid]
  have hname : nameFrom (PciLine.subclass id name).text 4 = some name.text := by
    have hname := name.nameFrom_eq ('\t' :: id.digits)
    rwa [List.length_cons, id.length_eq] at hname
  rw [parseLine_of_level st 1 htext (not_isBlankSpace_of_hex hc) (ne_of_digit hc rfl), parseAtLevel,
    parseLine1, hlevel, Option.bind_eq_bind, Option.bind_some, hname]
  exact ⟨_, rfl, rfl, rfl⟩

theorem parseLine_progIf (id : HexId 2) (name : Name) (htype : st.idtype = .knownDClass) :
    ∃ st', parseLine st (PciLine.progIf id name).text = some st' ∧
      st'.idtype = .knownDClass ∧ st'.devices = st.devices := by
  obtain ⟨c, d, rest, hdigits, hc, -⟩ := id.exists_cons (by decide)
  have htext : (PciLine.progIf id name).text = '\t' :: '\t' :: c :: d :: (rest ++ name.written) := by
    rw [PciLine.text, hdigits]
    rfl
  have hlevel : parseLevel2 (PciLine.progIf id name).text (intLen (PciLine.progIf id name).text)
      st.idtype (-1) (-1) 2 = some ⟨true, .knownDClass, -1, -1, 2⟩ := by
    simp [parseLevel2, htype]
  have hname : (nameFrom (PciLine.progIf id name).text 2).isSome := by
    rw [nameFrom_isSome_iff, htext, List.length_cons, List.length_cons]
    omega
  obtain ⟨subsystemName, hname⟩ := Option.isSome_iff_exists.mp hname
  rw [parseLine_of_level st 2 htext (not_isBlankSpace_of_hex hc) (ne_of_digit hc rfl), parseAtLevel,
    parseLine2, hlevel, Option.bind_eq_bind, Option.bind_some, hname]
  exact ⟨_, rfl, rfl, rfl⟩

end Lines

/-! ## What a line adds -/

/-- The database has, beyond the devices that it had, the one that a line names, if the code finds the
word there. -/
def Adds (entry : Option ((Int × Int) × List Char)) (devices devices' : Devices) : Prop :=
  (∀ pair, (devices' pair).isSome ↔
    (devices pair).isSome ∨ ∃ name, entry = some (pair, name) ∧ hasInfix switchString name) ∧
    ∀ pair device, devices' pair = some device → devices pair = some device ∨ device.type = .switch

theorem adds_none (devices : Devices) : Adds none devices devices := by
  refine ⟨fun pair => ⟨Or.inl, ?_⟩, fun _ _ h => Or.inl h⟩
  rintro (h | ⟨_, h, -⟩)
  · exact h
  · cases h

/-- A device of the switch type is added where its name has the word. -/
theorem adds_switch (devices : Devices) (pair : Int × Int) (name : List Char) {device : PcieDevice}
    (htype : device.type = .switch) :
    Adds (some (pair, name)) devices
      (if hasInfix switchString name then Function.update devices pair (some device)
        else devices) := by
  split
  case isTrue hfound =>
    refine ⟨fun other => ?_, fun other found hother => ?_⟩
    · by_cases heq : other = pair
      · obtain rfl := heq
        rw [Function.update_self]
        exact iff_of_true rfl (Or.inr ⟨name, rfl, hfound⟩)
      · rw [Function.update_of_ne heq]
        refine ⟨Or.inl, ?_⟩
        rintro (h | ⟨_, h, -⟩)
        · exact h
        · exact absurd (Prod.mk.inj (Option.some.inj h)).1.symm heq
    · by_cases heq : other = pair
      · obtain rfl := heq
        rw [Function.update_self] at hother
        obtain rfl := Option.some.inj hother
        exact Or.inr htype
      · rw [Function.update_of_ne heq] at hother
        exact Or.inl hother
  case isFalse hfound =>
    refine ⟨fun other => ⟨Or.inl, ?_⟩, fun _ _ h => Or.inl h⟩
    rintro (h | ⟨_, h, hname⟩)
    · exact h
    · obtain ⟨-, rfl⟩ := Prod.mk.inj (Option.some.inj h)
      exact absurd hname hfound

theorem addSwitchDevice_of_subsystem (devices : Devices) (vendorId deviceId : Int)
    {subVendorId subDeviceId : Int} (deviceName : List Char) {subsystemName : List Char}
    (hvendor : 0 ≤ subVendorId) (hdevice : 0 ≤ subDeviceId) (hname : subsystemName ≠ []) :
    Adds (some ((vendorId, deviceId), subsystemName)) devices
      (addSwitchDevice devices vendorId deviceId deviceName subVendorId subDeviceId
        subsystemName) := by
  rw [addSwitchDevice, if_pos ⟨hvendor, hdevice, hname⟩]
  exact adds_switch devices _ _ rfl

theorem addSwitchDevice_of_device (devices : Devices) {vendorId deviceId : Int}
    {deviceName : List Char} (subsystemName : List Char) (hvendor : 0 ≤ vendorId)
    (hdevice : 0 ≤ deviceId) (hname : deviceName ≠ []) :
    Adds (some ((vendorId, deviceId), deviceName)) devices
      (addSwitchDevice devices vendorId deviceId deviceName (-1) (-1) subsystemName) := by
  rw [addSwitchDevice, if_neg fun h => absurd h.1 (by decide), if_pos ⟨hvendor, hdevice, hname⟩]
  exact adds_switch devices _ _ rfl

/-! ## The section that is open -/

/-- What the parser knows of the section. -/
def Section.Reads : Section → PciParse → Prop
  | .none, _ => True
  | .vendor v, st => st.idtype = .vendor ∧ st.vendorId = v ∧ 0 ≤ v
  | .device v d, st =>
    (st.idtype = .device ∨ st.idtype = .subSys) ∧ st.vendorId = v ∧ st.deviceId = d ∧ 0 ≤ v
  | .deviceClass, st => st.idtype = .knownDClass
  | .subclass, st => st.idtype = .knownDClass

/-- A device in a vendor's section, whether or not it is the first. -/
theorem parseLine_reads_device {st : PciParse} {v : Int} {id : HexId 4} {name : Name}
    (hshort : (PciLine.device id name).text.length < 0x80000000)
    (htype : st.idtype = .vendor ∨ st.idtype = .device ∨ st.idtype = .subSys)
    (hvendor : st.vendorId = v) (hpos : 0 ≤ v) :
    ∃ st', parseLine st (PciLine.device id name).text = some st' ∧
      (Section.device v id.value).Reads st' ∧
      Adds (some ((v, id.value), name.text)) st.devices st'.devices := by
  obtain rfl := hvendor
  refine ⟨_, parseLine_device st id name hshort htype, ⟨Or.inl rfl, rfl, rfl, hpos⟩, ?_⟩
  exact addSwitchDevice_of_device st.devices st.subsystemName hpos id.value_nonneg name.text_ne_nil

/-- **A line** is read as what it is in its section. -/
theorem parseLine_reads {s t : Section} {line : PciLine} {st : PciParse} (hreads : s.Reads st)
    (hnext : s.next line = some t) (hshort : line.text.length < 0x80000000) :
    ∃ st', parseLine st line.text = some st' ∧ t.Reads st' ∧
      Adds (s.name line) st.devices st'.devices := by
  cases line with
  | blank =>
    cases s
    all_goals
      obtain rfl := Option.some.inj hnext
      exact ⟨st, rfl, hreads, adds_none st.devices⟩
  | comment indent blanks text =>
    cases s
    all_goals
      obtain rfl := Option.some.inj hnext
      exact ⟨st, parseLine_comment st indent text blanks, hreads, adds_none st.devices⟩
  | vendor id name =>
    cases s
    all_goals
      obtain rfl := Option.some.inj hnext
      exact ⟨_, parseLine_vendor st id name hshort, ⟨rfl, rfl, id.value_nonneg⟩,
        adds_none st.devices⟩
  | device id name =>
    cases s with
    | vendor v =>
      obtain rfl := Option.some.inj hnext
      obtain ⟨htype, hvendor, hpos⟩ := hreads
      exact parseLine_reads_device hshort (Or.inl htype) hvendor hpos
    | device v d =>
      obtain rfl := Option.some.inj hnext
      obtain ⟨htype, hvendor, -, hpos⟩ := hreads
      exact parseLine_reads_device hshort (Or.inr htype) hvendor hpos
    | none => cases hnext
    | deviceClass => cases hnext
    | subclass => cases hnext
  | subsystem subVendor subDevice name =>
    cases s with
    | device v d =>
      obtain rfl := Option.some.inj hnext
      obtain ⟨htype, rfl, rfl, hpos⟩ := hreads
      refine ⟨_, parseLine_subsystem st subVendor subDevice name hshort htype,
        ⟨Or.inr rfl, rfl, rfl, hpos⟩, ?_⟩
      exact addSwitchDevice_of_subsystem st.devices st.vendorId st.deviceId st.deviceName
        subVendor.value_nonneg subDevice.value_nonneg name.text_ne_nil
    | none => cases hnext
    | vendor v => cases hnext
    | deviceClass => cases hnext
    | subclass => cases hnext
  | deviceClass id name =>
    obtain ⟨st', hparse, htype, hdevices⟩ := parseLine_deviceClass st id name hshort
    cases s
    all_goals
      obtain rfl := Option.some.inj hnext
      exact ⟨st', hparse, htype, by rw [hdevices]; exact adds_none st.devices⟩
  | subclass id name =>
    cases s with
    | deviceClass =>
      obtain rfl := Option.some.inj hnext
      obtain ⟨st', hparse, htype, hdevices⟩ := parseLine_subclass st id name hreads
      exact ⟨st', hparse, htype, by rw [hdevices]; exact adds_none st.devices⟩
    | subclass =>
      obtain rfl := Option.some.inj hnext
      obtain ⟨st', hparse, htype, hdevices⟩ := parseLine_subclass st id name hreads
      exact ⟨st', hparse, htype, by rw [hdevices]; exact adds_none st.devices⟩
    | none => cases hnext
    | vendor v => cases hnext
    | device v d => cases hnext
  | progIf id name =>
    cases s with
    | subclass =>
      obtain rfl := Option.some.inj hnext
      obtain ⟨st', hparse, htype, hdevices⟩ := parseLine_progIf st id name hreads
      exact ⟨st', hparse, htype, by rw [hdevices]; exact adds_none st.devices⟩
    | none => cases hnext
    | vendor v => cases hnext
    | device v d => cases hnext
    | deviceClass => cases hnext

/-- **The lines.** The database has, beyond the devices that it had, those with a name in which the
code finds the word. -/
theorem parseLines_reads {s : Section} {lines : List PciLine} {st : PciParse} (hreads : s.Reads st)
    (hplaced : (Runs.follow Section.next s lines).isSome)
    (hshort : ∀ line ∈ lines, line.text.length < 0x80000000) :
    ∃ st', Runs.follow parseLine st (lines.map PciLine.text) = some st' ∧
      (∀ pair, (st'.devices pair).isSome ↔
        (st.devices pair).isSome ∨ ∃ name, (pair, name) ∈ names s lines ∧ hasInfix switchString name) ∧
      ∀ pair device, st'.devices pair = some device →
        st.devices pair = some device ∨ device.type = .switch := by
  induction lines generalizing s st with
  | nil =>
    refine ⟨st, rfl, fun pair => ⟨Or.inl, ?_⟩, fun _ _ h => Or.inl h⟩
    rintro (h | ⟨_, h, -⟩)
    · exact h
    · cases h
  | cons line lines ih =>
    rw [Runs.follow] at hplaced
    cases hnext : s.next line with
    | none =>
      rw [hnext] at hplaced
      cases hplaced
    | some t =>
      rw [hnext, Option.bind_some] at hplaced
      obtain ⟨st₁, hparse, hreads₁, hadds, htype⟩ :=
        parseLine_reads hreads hnext (hshort line List.mem_cons_self)
      obtain ⟨st', hrest, hadds', htype'⟩ :=
        ih hreads₁ hplaced fun l hl => hshort l (List.mem_cons_of_mem line hl)
      refine ⟨st', ?_, fun pair => ?_, fun pair device hdevice => ?_⟩
      · rw [List.map_cons, Runs.follow, hparse, Option.bind_some, hrest]
      · have hnames : ∀ name, (pair, name) ∈ names s (line :: lines) ↔
            s.name line = some (pair, name) ∨ (pair, name) ∈ names t lines := by
          intro name
          rw [names, hnext, List.mem_append, Option.mem_toList]
          rfl
        rw [hadds', hadds, or_assoc, ← exists_or]
        refine or_congr_right (exists_congr fun name => ?_)
        rw [hnames, or_and_right]
      · obtain h | h := htype' pair device hdevice
        · exact htype pair device h
        · exact Or.inr h

/-! ## The switches -/

/-- What the code finds is the word. -/
theorem hasWord_of_hasInfix {name : List Char} (h : hasInfix switchString name) : HasWord name := by
  obtain ⟨before, after, rfl⟩ := hasInfix_iff.mp h
  refine ⟨before ++ [' '], ' ' :: after, ?_, ?_, ?_⟩
  · rw [List.append_assoc, List.append_assoc, List.append_assoc]
    rfl
  · intro c hc
    rw [List.getLast?_concat] at hc
    obtain rfl := Option.some.inj hc
    rfl
  · intro c hc
    obtain rfl := Option.some.inj hc
    rfl

/-- **The switches.** The database has exactly the devices with the word in one of their names if and
only if each of them has a name with a space on both sides of the word. -/
theorem parsePciDevice_lists_iff {content : String} {lines : List PciLine}
    (hlines : fileLines content = lines.map PciLine.text) (hwf : WellFormed lines) :
    (∃ st, parsePciDevice (fun _ => none) content = some st ∧ ListsSwitches lines st.devices) ↔
      ∀ pair name, (pair, name) ∈ names .none lines → HasWord name →
        ∃ name', (pair, name') ∈ names .none lines ∧ hasInfix switchString name' := by
  have hstart : Section.none.Reads { devices := fun _ => none } := trivial
  obtain ⟨st, hparse, hdevices, htype⟩ := parseLines_reads hstart hwf.placed hwf.short
  have hfound : ∀ pair, (st.devices pair).isSome ↔
      ∃ name, (pair, name) ∈ names .none lines ∧ hasInfix switchString name := by
    intro pair
    rw [hdevices, Option.isSome_none]
    exact or_iff_right nofun
  have hswitch : ∀ pair device, st.devices pair = some device → device.type = .switch := by
    intro pair device hdevice
    obtain h | h := htype pair device hdevice
    · cases h
    · exact h
  rw [parsePciDevice, hlines, hparse]
  constructor
  · rintro ⟨st', hst, hlists, -⟩ pair name hname hword
    obtain rfl := Option.some.inj hst
    exact (hfound pair).mp ((hlists pair).mpr ⟨name, hname, hword⟩)
  · intro hall
    refine ⟨st, rfl, fun pair => ?_, hswitch⟩
    rw [hfound]
    constructor
    · rintro ⟨name, hname, hinfix⟩
      exact ⟨name, hname, hasWord_of_hasInfix hinfix⟩
    · rintro ⟨name, hname, hword⟩
      exact hall pair name hname hword

theorem wellFormed_of_all {lines : List PciLine}
    (hplaced : (Runs.follow Section.next .none lines).isSome)
    (hshort : (lines.all fun line => line.text.length < 0x80000000) = true) : WellFormed lines :=
  ⟨hplaced, fun line hline => of_decide_eq_true (List.all_eq_true.mp hshort line hline)⟩

/-- Lines of all kinds. -/
def sampleLines : List PciLine :=
  [.comment [] nofun [],
    .vendor ⟨"104c".toList, rfl, List.all_eq_true.mp (by decide)⟩
      ⟨1, "TI".toList, 'T', rfl, by decide⟩,
    .device ⟨"8232".toList, rfl, List.all_eq_true.mp (by decide)⟩
      ⟨1, "PCIe Switch (Up)".toList, 'P', rfl, by decide⟩,
    .subsystem ⟨"1028".toList, rfl, List.all_eq_true.mp (by decide)⟩
      ⟨"02da".toList, rfl, List.all_eq_true.mp (by decide)⟩
      ⟨1, "Dell".toList, 'D', rfl, by decide⟩,
    .blank,
    .deviceClass ⟨"06".toList, rfl, List.all_eq_true.mp (by decide)⟩
      ⟨1, "Bus".toList, 'B', rfl, by decide⟩,
    .subclass ⟨"04".toList, rfl, List.all_eq_true.mp (by decide)⟩
      ⟨1, "PCI".toList, 'P', rfl, by decide⟩,
    .progIf ⟨"00".toList, rfl, List.all_eq_true.mp (by decide)⟩
      ⟨1, "Any".toList, 'A', rfl, by decide⟩]

def sampleList : String :=
  "#\n104c  TI\n\t8232  PCIe Switch (Up)\n\t\t1028 02da  Dell\n\nC 06  Bus\n\t04  PCI\n\t\t00  Any\n"

theorem parsePciDevice_lists_sample :
    ∃ st, parsePciDevice (fun _ => none) sampleList = some st ∧
      ListsSwitches sampleLines st.devices := by
  have hlines : fileLines sampleList = sampleLines.map PciLine.text := by decide
  refine (parsePciDevice_lists_iff hlines (wellFormed_of_all rfl (by decide))).mpr ?_
  have hnames : names .none sampleLines =
      [((0x104c, 0x8232), "PCIe Switch (Up)".toList),
        ((0x104c, 0x8232), "Dell".toList)] := by decide
  intro pair name hname hword
  have hpair : pair = (0x104c, 0x8232) := by
    rw [hnames, List.mem_cons, List.mem_singleton] at hname
    obtain h | h := hname
    · exact (Prod.mk.inj h).1
    · exact (Prod.mk.inj h).1
  obtain rfl := hpair
  refine ⟨"PCIe Switch (Up)".toList, ?_, by decide⟩
  rw [hnames]
  exact List.mem_cons_self

/-- A device of the list that is shipped. -/
def microsemiLines : List PciLine :=
  [.vendor ⟨"111d".toList, rfl, List.all_eq_true.mp (by decide)⟩
      ⟨1, "Microsemi / PMC / IDT".toList, 'M', rfl, by decide⟩,
    .device ⟨"8028".toList, rfl, List.all_eq_true.mp (by decide)⟩
      ⟨1, "PES4T4 PCI Express Switch".toList, 'P', rfl, by decide⟩]

def microsemiList : String := "111d  Microsemi / PMC / IDT\n\t8028  PES4T4 PCI Express Switch\n"

/-- The word is the last one of the name, and the switch is not found. -/
theorem parsePciDevice_lastWord :
    fileLines microsemiList = microsemiLines.map PciLine.text ∧ WellFormed microsemiLines ∧
      ¬ ∃ st, parsePciDevice (fun _ => none) microsemiList = some st ∧
        ListsSwitches microsemiLines st.devices := by
  refine ⟨by decide, wellFormed_of_all rfl (by decide), ?_⟩
  rintro ⟨st, hst, hlists, -⟩
  have hnot : (parsePciDevice (fun _ => none) microsemiList).map
      (fun st => (st.devices (0x111d, 0x8028)).isSome) = some false := by decide
  rw [hst, Option.map_some] at hnot
  have hmem : ((0x111d, 0x8028), "PES4T4 PCI Express Switch".toList) ∈
      names .none microsemiLines := by decide
  have hword : HasWord "PES4T4 PCI Express Switch".toList := by
    refine ⟨"PES4T4 PCI Express ".toList, [], rfl, ?_, nofun⟩
    intro c hc
    obtain rfl := Option.some.inj hc
    rfl
  rw [(hlists _).mpr ⟨_, hmem, hword⟩] at hnot
  cases hnot

end PciDatabase

end XpuManager
