import XpuManager.Oal.PciDatabase

/-! # The exceptions of the parsing

A line of `pci.ids` or `pci.conf` that is too short, or has no number where one is expected, ends the
program: nothing catches what `stoi` and `at` throw. -/

namespace XpuManager

namespace PciDatabase

open Numerals

/-! ## The lines that throw nothing -/

/-- A text begins with a hexadecimal number. -/
def BeginsNumber (text : List Char) : Prop := (number text).isSome

/-- A capital letter with a blank behind it: the header of a section that is not a vendor's. -/
def Headed : List Char → Prop
  | first :: second :: _ => ('A' ≤ first ∧ first ≤ 'Z') ∧ isBlankSpace second
  | _ => False

instance (info : List Char) : Decidable (Headed info) :=
  match info with
  | [] | [_] => inferInstanceAs (Decidable False)
  | first :: second :: _ =>
    inferInstanceAs (Decidable (('A' ≤ first ∧ first ≤ 'Z') ∧ isBlankSpace second = true))

/-- Of a header, only that of a class is read; any other line is a vendor's. -/
def Level0Safe (info : List Char) : Prop :=
  5 < intLen info →
    if Headed info then info.head? = some 'C' → BeginsNumber ((info.drop 2).take 2)
    else BeginsNumber (info.take 4)

/-- In a class, the length of the line is not looked at. -/
def Level1Safe (type : IdType) (info : List Char) : Prop :=
  match type with
  | .unknown => True
  | .knownDClass => ∃ i, number ((info.drop 1).take 2) = some i ∧ (0 ≤ i → 3 < info.length)
  | .vendor | .device | .subSys => 6 < intLen info → BeginsNumber ((info.drop 1).take 4)

/-- The second number is read if the first is followed by a blank. -/
def Level2Safe (type : IdType) (info : List Char) : Prop :=
  match type with
  | .unknown | .knownDClass | .vendor => True
  | .device | .subSys =>
    12 < intLen info →
      ∃ i, number ((info.drop 2).take 4) = some i ∧
        (0 ≤ i → (∃ c ∈ info[6]?, isBlankSpace c) → BeginsNumber ((info.drop 7).take 4))

/-- A line of `pci.ids` throws nothing where the section is of this type. -/
def LineSafe (type : IdType) (info : List Char) : Prop :=
  info ≠ [] → ¬ lineIsComment info →
    match (info.takeWhile (· = '\t')).length with
    | 0 => Level0Safe info
    | 1 => Level1Safe type info
    | 2 => Level2Safe type info
    | _ => True

/-- A text begins with a number that is an `int`. -/
def BeginsInt (text : List Char) : Prop := ∃ i ∈ number text, -0x80000000 ≤ i ∧ i < 0x80000000

/-- A line of `pci.conf` throws nothing: it begins with a number, and so does what follows, and
something stands behind the type of a graphics device. -/
def ConfigSafe (info : List Char) : Prop :=
  info ≠ [] → ¬ lineIsComment info →
    BeginsInt info ∧
      let start := numberEnd info + 1
      start < info.length →
        BeginsInt (info.drop start) ∧
          let start := start + numberEnd (info.drop start) + 1
          info[start]? = some '2' → ∃ c ∈ info.drop (start + 1), ¬ isBlankSpace c

/-! ## The library -/

theorem substr_of_le {info : List Char} {pos : Nat} (h : pos ≤ info.length) (n : Nat) :
    substr info pos n = some ((info.drop pos).take n) := if_pos h

theorem nameFrom_isSome_iff {info : List Char} {idx : Nat} :
    (nameFrom info idx).isSome ↔ idx ≤ info.length := by
  rw [nameFrom, Option.isSome_map, substrFrom]
  split
  case isTrue h => exact iff_of_true rfl h
  case isFalse h => exact iff_of_false nofun h

/-- Four digits are no more than an `int` can be. -/
theorem stoi16_of_length_le {text : List Char} (h : text.length ≤ 4) : stoi16 text = number text := by
  unfold stoi16 stoiPos
  split
  case h_1 hnumber => rw [hnumber]; rfl
  case h_2 i hnumber =>
    have hlt : i.natAbs < 16 ^ text.length := by
      have hsize := natAbs_parseInt_lt (by decide) hnumber
      rwa [String.toList_ofList] at hsize
    have hpow : 16 ^ text.length ≤ 16 ^ 4 := Nat.pow_le_pow_right (by decide) h
    rw [hnumber, if_pos (by omega)]
    rfl

theorem stoi16_substr (info : List Char) (pos : Nat) {n : Nat} (h : n ≤ 4) :
    stoi16 ((info.drop pos).take n) = number ((info.drop pos).take n) := by
  have hle : ((info.drop pos).take n).length ≤ n := List.length_take_le n _
  exact stoi16_of_length_le (by omega)

/-- `stoi` throws unless an integer begins the text. -/
theorem stoiPos_isSome_iff {text : List Char} : (stoiPos text).isSome ↔ BeginsInt text := by
  unfold stoiPos BeginsInt
  cases number text with
  | none => exact iff_of_false nofun nofun
  | some i =>
    dsimp only
    split
    case isTrue h => exact iff_of_true rfl ⟨i, rfl, h⟩
    case isFalse h =>
      refine iff_of_false nofun fun ⟨j, hj, hfits⟩ => h ?_
      obtain rfl := Option.some.inj hj
      exact hfits

theorem snd_of_stoiPos {text : List Char} {i : Int} {pos : Nat} (h : stoiPos text = some (i, pos)) :
    pos = numberEnd text := by
  unfold stoiPos at h
  split at h
  · cases h
  · split at h
    · obtain ⟨-, rfl⟩ := Prod.mk.inj (Option.some.inj h)
      rfl
    · cases h

/-- A length that is long enough as an `int` is long enough. -/
theorem lt_length_of_intLen {info : List Char} {k : Nat} (h : (k : Int) < intLen info) :
    k < info.length := by
  have hsize : Int32.size = 0x100000000 := rfl
  rw [intLen, Int32.toInt_ofNat', Int.bmod_eq_emod, hsize] at h
  split at h <;> omega

/-- The rest of a line is there, as long as its IDs are. -/
theorem idAt_isSome_iff {info : List Char} {pos n : Nat} (hpos : pos ≤ info.length) (hn : n ≤ 4) :
    (idAt info pos n).isSome ↔
      ∃ i, number ((info.drop pos).take n) = some i ∧ (0 ≤ i → pos + n < info.length) := by
  simp only [idAt, substr_of_le hpos, Option.bind_eq_bind, Option.bind_some, stoi16_substr info pos hn]
  cases number ((info.drop pos).take n) with
  | none => exact iff_of_false nofun nofun
  | some i =>
    rw [Option.bind_some]
    split
    case isTrue hi =>
      rw [Option.isSome_map, isSome_getElem?]
      constructor
      · intro hlt
        exact ⟨i, rfl, fun _ => hlt⟩
      · rintro ⟨j, hj, hlt⟩
        obtain rfl := Option.some.inj hj
        exact hlt hi
    case isFalse hi => exact iff_of_true rfl ⟨i, rfl, fun h => absurd h hi⟩

theorem idAt_isSome_iff_of_lt {info : List Char} {pos n : Nat} (h : pos + n < info.length)
    (hn : n ≤ 4) : (idAt info pos n).isSome ↔ BeginsNumber ((info.drop pos).take n) := by
  rw [idAt_isSome_iff (by omega) hn, BeginsNumber, Option.isSome_iff_exists]
  exact exists_congr fun i => and_iff_left fun _ => h

/-- An ID that is one is a number, and a blank is behind it. -/
theorem idAt_eq_some {info : List Char} {pos n : Nat} {i : Int} {ok : Bool}
    (hpos : pos ≤ info.length) (hn : n ≤ 4) (h : idAt info pos n = some (i, ok)) :
    number ((info.drop pos).take n) = some i ∧
      (ok = true ↔ 0 ≤ i ∧ ∃ c ∈ info[pos + n]?, isBlankSpace c) := by
  simp only [idAt, substr_of_le hpos, Option.bind_eq_bind, Option.bind_some,
    stoi16_substr info pos hn, Option.bind_eq_some_iff] at h
  obtain ⟨j, hnumber, h⟩ := h
  split at h
  case isTrue hj =>
    obtain ⟨c, hc, heq⟩ := Option.map_eq_some_iff.mp h
    obtain ⟨rfl, rfl⟩ := Prod.mk.inj heq
    refine ⟨hnumber, ?_, ?_⟩
    · intro hblank
      exact ⟨hj, c, hc, hblank⟩
    · rintro ⟨-, d, hd, hblank⟩
      rw [hc] at hd
      obtain rfl := Option.some.inj hd
      exact hblank
  case isFalse hj =>
    obtain ⟨rfl, rfl⟩ := Prod.mk.inj (Option.some.inj h)
    exact ⟨hnumber, nofun, fun hi => absurd hi.1 hj⟩

theorem lt_length_of_idAt {info : List Char} {pos n : Nat} {i : Int} (hpos : pos ≤ info.length)
    (hn : n ≤ 4) (h : idAt info pos n = some (i, true)) : pos + n < info.length := by
  obtain ⟨-, c, hc, -⟩ := (idAt_eq_some hpos hn h).2.mp rfl
  exact (List.getElem?_eq_some_iff.mp hc).1

/-! ## The levels -/

/-- Whether a line is a header can be told of every line. -/
theorem isHeader_of_cons (first : Char) (rest : List Char) :
    isHeader (first :: rest) (intLen (first :: rest)) first =
      some (decide (2 ≤ intLen (first :: rest) ∧ Headed (first :: rest))) := by
  unfold isHeader
  split
  case isTrue h =>
    have hlen := lt_length_of_intLen (k := 1) (Int.lt_of_lt_of_le (by decide) h.2)
    match rest with
    | [] => exact absurd hlen (by simp)
    | second :: rest =>
      simp [Headed, h.1, h.2]
  case isFalse h =>
    refine congrArg some (Eq.symm (decide_eq_false fun hheader => h ⟨?_, hheader.1⟩))
    match rest with
    | [] => exact absurd hheader.2 id
    | second :: rest => exact hheader.2.1

/-- The name of a line begins inside of it. -/
theorem idx_of_parseLevel0 {info : List Char} {type : IdType} {vendorId : Int} {level : Level0}
    (h : parseLevel0 info (intLen info) type vendorId 0 = some level) :
    level.idx ≤ info.length := by
  have hlong : 5 < intLen info → 5 ≤ info.length :=
    fun hlen => Nat.le_of_lt (lt_length_of_intLen hlen)
  simp only [parseLevel0, Option.bind_eq_bind, Option.bind_eq_some_iff] at h
  obtain ⟨first, -, header, -, h⟩ := h
  split at h
  · split at h
    · obtain ⟨text, -, h⟩ := Option.bind_eq_some_iff.mp h
      obtain ⟨i, -, h⟩ := Option.bind_eq_some_iff.mp h
      grind
    · grind
  · split at h
    · grind
    · split at h
      · obtain ⟨id, -, h⟩ := Option.bind_eq_some_iff.mp h
        grind
      · grind

theorem idx_of_parseLevel1 {info : List Char} (hne : info ≠ []) {type : IdType} {deviceId : Int}
    {level : Level1} (h : parseLevel1 info (intLen info) type deviceId 1 = some level) :
    level.idx ≤ info.length := by
  have hpos : 1 ≤ info.length := List.length_pos_of_ne_nil hne
  have hlong : 6 < intLen info → 6 ≤ info.length :=
    fun hlen => Nat.le_of_lt (lt_length_of_intLen hlen)
  have hshort : ∀ i, idAt info 1 2 = some (i, true) → 4 ≤ info.length :=
    fun i hid => lt_length_of_idAt hpos (by decide) hid
  unfold parseLevel1 at h
  split at h
  · grind
  · obtain ⟨⟨i, ok⟩, hid, h⟩ := Option.bind_eq_some_iff.mp h
    grind
  all_goals
    split at h
    · obtain ⟨⟨i, ok⟩, hid, h⟩ := Option.bind_eq_some_iff.mp h
      grind
    · grind

theorem idx_of_parseLevel2 {info : List Char} (hpos : 2 ≤ info.length) {type : IdType}
    {subVendorId subDeviceId : Int} {level : Level2}
    (h : parseLevel2 info (intLen info) type subVendorId subDeviceId 2 = some level) :
    level.idx ≤ info.length := by
  have hlong : 12 < intLen info → 12 ≤ info.length :=
    fun hlen => Nat.le_of_lt (lt_length_of_intLen hlen)
  unfold parseLevel2 at h
  split at h
  iterate 3 grind
  all_goals
    split at h
    · obtain ⟨⟨i, ok⟩, -, h⟩ := Option.bind_eq_some_iff.mp h
      dsimp only at h
      split at h
      · obtain ⟨⟨j, ok⟩, -, h⟩ := Option.bind_eq_some_iff.mp h
        grind
      · grind
    · grind

/-- A number decides whether its level can be told, whatever it is. -/
theorem bind_isSome_iff {α β : Type} {x : Option α} {f : α → Option β} (h : ∀ a, (f a).isSome) :
    (x.bind f).isSome ↔ x.isSome := by
  cases x with
  | none => exact iff_of_false nofun nofun
  | some a => exact iff_of_true (h a) rfl

/-- A vendor line is read without exception exactly where it is safe. -/
theorem parseLevel0_isSome_iff {info : List Char} (hne : info ≠ []) (type : IdType)
    (vendorId : Int) :
    (parseLevel0 info (intLen info) type vendorId 0).isSome ↔ Level0Safe info := by
  obtain ⟨first, rest, rfl⟩ := List.exists_cons_of_ne_nil hne
  simp only [parseLevel0, List.getElem?_cons_zero, Option.bind_eq_bind, Option.bind_some,
    isHeader_of_cons, decide_eq_true_eq]
  by_cases hlen : 5 < intLen (first :: rest)
  · have hfive : 5 < (first :: rest).length := lt_length_of_intLen hlen
    have htwo : 2 ≤ intLen (first :: rest) := by omega
    simp only [Level0Safe, hlen, htwo, true_and, if_true, true_imp_iff]
    split
    case isTrue h =>
      rw [if_pos h.2, substr_of_le (by omega), Option.bind_some, bind_isSome_iff,
        stoi16_substr _ _ (by decide)]
      · exact (imp_iff_right (congrArg some h.1)).symm
      · intro i
        split <;> rfl
    case isFalse h =>
      split
      case isTrue hheader =>
        refine iff_of_true rfl fun hfirst => absurd ⟨Option.some.inj hfirst, hheader⟩ h
      case isFalse hheader =>
        rw [bind_isSome_iff, idAt_isSome_iff_of_lt (by omega) (by decide), List.drop_zero]
        intro id
        split <;> rfl
  · refine iff_of_true ?_ fun h => absurd h hlen
    simp only [hlen, if_false]
    split
    · rfl
    · split <;> rfl

/-- The same for a line of the first level. -/
theorem parseLevel1_isSome_iff {info : List Char} (hne : info ≠ []) (type : IdType)
    (deviceId : Int) :
    (parseLevel1 info (intLen info) type deviceId 1).isSome ↔ Level1Safe type info := by
  have hpos : 1 ≤ info.length := List.length_pos_of_ne_nil hne
  have hdevice : (if 6 < intLen info then
      (idAt info 1 4).bind fun id =>
        if id.2 then some ⟨true, .device, id.1, 6⟩ else some ⟨false, type, id.1, 1⟩
      else some (⟨false, type, deviceId, 1⟩ : Level1)).isSome ↔
      (6 < intLen info → BeginsNumber ((info.drop 1).take 4)) := by
    split
    case isTrue hlen =>
      have hsix : 6 < info.length := lt_length_of_intLen hlen
      rw [bind_isSome_iff, idAt_isSome_iff_of_lt (by omega) (by decide)]
      · exact (imp_iff_right hlen).symm
      · intro id
        split <;> rfl
    case isFalse hlen => exact iff_of_true rfl fun h => absurd h hlen
  unfold parseLevel1 Level1Safe
  split
  case h_1 => exact iff_of_true rfl trivial
  case h_2 =>
    rw [Option.bind_eq_bind, bind_isSome_iff, idAt_isSome_iff hpos (by decide)]
    rintro ⟨i, ok⟩
    cases ok <;> rfl
  case h_3 => exact hdevice
  case h_4 => exact hdevice
  case h_5 => exact hdevice

/-- The same for a line of the second level. -/
theorem parseLevel2_isSome_iff (info : List Char) (type : IdType) (subVendorId subDeviceId : Int) :
    (parseLevel2 info (intLen info) type subVendorId subDeviceId 2).isSome ↔
      Level2Safe type info := by
  have hsubsystem : (if 12 < intLen info then
      (idAt info 2 4).bind fun subVendor =>
        if subVendor.2 then
          (idAt info 7 4).bind fun subDevice =>
            if subDevice.2 then some ⟨true, .subSys, subVendor.1, subDevice.1, 12⟩
            else some ⟨false, type, subVendor.1, subDevice.1, 2⟩
        else some ⟨false, type, subVendor.1, subDeviceId, 2⟩
      else some (⟨false, type, subVendorId, subDeviceId, 2⟩ : Level2)).isSome ↔
      (12 < intLen info →
        ∃ i, number ((info.drop 2).take 4) = some i ∧
          (0 ≤ i → (∃ c ∈ info[6]?, isBlankSpace c) → BeginsNumber ((info.drop 7).take 4))) := by
    split
    case isFalse hlen => exact iff_of_true rfl fun h => absurd h hlen
    case isTrue hlen =>
      have htwelve : 12 < info.length := lt_length_of_intLen hlen
      rw [imp_iff_right hlen]
      cases hid : idAt info 2 4 with
      | none =>
        refine iff_of_false nofun fun ⟨i, hnumber, _⟩ => ?_
        have hsome : (idAt info 2 4).isSome := by
          rw [idAt_isSome_iff_of_lt (by omega) (by decide), BeginsNumber, hnumber]
          rfl
        rw [hid] at hsome
        cases hsome
      | some subVendor =>
        obtain ⟨i, ok⟩ := subVendor
        obtain ⟨hnumber, hok⟩ := idAt_eq_some (by omega) (by decide) hid
        rw [Option.bind_some, hnumber]
        dsimp only
        split
        case isTrue hblank =>
          obtain ⟨hi, hsix⟩ := hok.mp hblank
          rw [bind_isSome_iff, idAt_isSome_iff_of_lt (by omega) (by decide)]
          · constructor
            · intro hbegins
              exact ⟨i, rfl, fun _ _ => hbegins⟩
            · rintro ⟨j, hj, hbegins⟩
              obtain rfl := Option.some.inj hj
              exact hbegins hi hsix
          · rintro ⟨j, ok⟩
            cases ok <;> rfl
        case isFalse hblank =>
          exact iff_of_true rfl ⟨i, rfl, fun hi hsix => absurd (hok.mpr ⟨hi, hsix⟩) hblank⟩
  unfold parseLevel2 Level2Safe
  split
  case h_1 => exact iff_of_true rfl trivial
  case h_2 => exact iff_of_true rfl trivial
  case h_3 => exact iff_of_true rfl trivial
  case h_4 => exact hsubsystem
  case h_5 => exact hsubsystem

/-! ## The lines -/

theorem parseLine0_isSome_iff (st : PciParse) {info : List Char} (hne : info ≠ []) :
    (parseLine0 st info).isSome ↔ Level0Safe info := by
  rw [← parseLevel0_isSome_iff hne st.idtype st.vendorId, parseLine0]
  cases hlevel : parseLevel0 info (intLen info) st.idtype st.vendorId 0 with
  | none => exact Iff.rfl
  | some level =>
    have hname := nameFrom_isSome_iff.mpr (idx_of_parseLevel0 hlevel)
    obtain ⟨name, hname⟩ := Option.isSome_iff_exists.mp hname
    simp [hname]

theorem parseLine1_isSome_iff (st : PciParse) {info : List Char} (hne : info ≠ []) :
    (parseLine1 st info).isSome ↔ Level1Safe st.idtype info := by
  rw [← parseLevel1_isSome_iff hne st.idtype (-1), parseLine1]
  cases hlevel : parseLevel1 info (intLen info) st.idtype (-1) 1 with
  | none => exact Iff.rfl
  | some level =>
    have hname := nameFrom_isSome_iff.mpr (idx_of_parseLevel1 hne hlevel)
    obtain ⟨name, hname⟩ := Option.isSome_iff_exists.mp hname
    simp [hname]

theorem parseLine2_isSome_iff (st : PciParse) {info : List Char} (hpos : 2 ≤ info.length) :
    (parseLine2 st info).isSome ↔ Level2Safe st.idtype info := by
  rw [← parseLevel2_isSome_iff info st.idtype (-1) (-1), parseLine2]
  cases hlevel : parseLevel2 info (intLen info) st.idtype (-1) (-1) 2 with
  | none => exact Iff.rfl
  | some level =>
    have hname := nameFrom_isSome_iff.mpr (idx_of_parseLevel2 hpos hlevel)
    obtain ⟨name, hname⟩ := Option.isSome_iff_exists.mp hname
    simp [hname]

/-- A line of the list, whatever its level. -/
theorem parseLine_isSome_iff (st : PciParse) (info : List Char) :
    (parseLine st info).isSome ↔ LineSafe st.idtype info := by
  unfold parseLine LineSafe
  by_cases hne : info = []
  · rw [if_pos hne]
    exact iff_of_true rfl fun h => absurd hne h
  by_cases hcomment : lineIsComment info
  · rw [if_neg hne, if_pos hcomment]
    exact iff_of_true rfl fun _ h => absurd hcomment h
  rw [if_neg hne, if_neg hcomment, imp_iff_right hne, imp_iff_right hcomment]
  -- A line is as long as its indentation.
  have hle : (info.takeWhile (· = '\t')).length ≤ info.length := (List.takeWhile_sublist _).length_le
  generalize (info.takeWhile (· = '\t')).length = level at hle
  match level with
  | 0 => exact parseLine0_isSome_iff st hne
  | 1 => exact parseLine1_isSome_iff st hne
  | 2 => exact parseLine2_isSome_iff st hle
  | n + 3 => exact iff_of_true rfl trivial

/-! ## The configuration -/

/-- What is behind the blanks. -/
theorem getElem?_behind_takeWhile {α : Type} (p : α → Bool) (as : List α) (start : Nat) :
    as[start + ((as.drop start).takeWhile p).length]? = ((as.drop start).dropWhile p).head? := by
  have hdrop : (as.drop start).drop ((as.drop start).takeWhile p).length =
      (as.drop start).dropWhile p := by
    calc (as.drop start).drop ((as.drop start).takeWhile p).length
        = ((as.drop start).takeWhile p ++ (as.drop start).dropWhile p).drop
            ((as.drop start).takeWhile p).length := by rw [List.takeWhile_append_dropWhile]
      _ = (as.drop start).dropWhile p := List.drop_left
  rw [← List.getElem?_drop, ← List.head?_drop, hdrop]

theorem parseGraphic_isSome_iff (info : List Char) (start : Nat) (device : PcieDevice) :
    (parseGraphic info start device).isSome ↔ ∃ c ∈ info.drop start, ¬ isBlankSpace c := by
  have hgroup : (parseGraphic info start device).isSome ↔
      info[start + ((info.drop start).takeWhile isBlankSpace).length]?.isSome := by
    unfold parseGraphic
    dsimp only
    rw [Option.bind_eq_bind, bind_isSome_iff]
    intro group
    split
    case isTrue h => simp [substrFrom, Nat.le_of_lt h]
    case isFalse => rfl
  rw [hgroup, getElem?_behind_takeWhile]
  simp

/-- A number is read, and what comes behind it does not depend on its value. -/
theorem stoiPos_bind_isSome_iff {β : Type} {text : List Char} {f : Int × Nat → Option β} {P : Prop}
    (h : ∀ i, (f (i, numberEnd text)).isSome ↔ P) :
    ((stoiPos text).bind f).isSome ↔ BeginsInt text ∧ P := by
  rw [← stoiPos_isSome_iff]
  cases hnumber : stoiPos text with
  | none => exact iff_of_false nofun fun hand => absurd hand.1 nofun
  | some read =>
    obtain ⟨i, pos⟩ := read
    obtain rfl := snd_of_stoiPos hnumber
    rw [Option.bind_some, h i]
    exact (and_iff_right rfl).symm

/-- A line of the configuration file. -/
theorem configLine_isSome_iff (devices : Devices) (info : List Char) :
    (configLine devices info).isSome ↔ ConfigSafe info := by
  unfold configLine ConfigSafe
  by_cases hne : info = []
  · rw [if_pos hne]
    exact iff_of_true rfl fun h => absurd hne h
  by_cases hcomment : lineIsComment info
  · rw [if_neg hne, if_pos hcomment]
    exact iff_of_true rfl fun _ h => absurd hcomment h
  rw [if_neg hne, if_neg hcomment, imp_iff_right hne, imp_iff_right hcomment]
  have hzero : substrFrom info 0 = some info := if_pos (Nat.zero_le _)
  rw [hzero, Option.bind_eq_bind, Option.bind_some]
  refine stoiPos_bind_isSome_iff fun vendorId => ?_
  dsimp only
  by_cases hstart : numberEnd info + 1 < info.length
  · rw [if_pos hstart, imp_iff_right hstart, substrFrom, if_pos (Nat.le_of_lt hstart)]
    refine stoiPos_bind_isSome_iff fun deviceId => ?_
    dsimp only
    generalize numberEnd info + 1 + numberEnd (info.drop (numberEnd info + 1)) + 1 = start
    by_cases htype : start < info.length
    · rw [if_pos htype, List.getElem?_eq_getElem htype, Option.bind_eq_bind, Option.bind_some]
      generalize info[start] = type
      by_cases hgraphic : type = '2'
      · obtain rfl := hgraphic
        rw [if_neg (by decide), if_neg (by decide), if_pos rfl, Option.bind_eq_bind,
          bind_isSome_iff fun _ => rfl, parseGraphic_isSome_iff, imp_iff_right rfl]
      · refine iff_of_true ?_ fun h => absurd (Option.some.inj h) hgraphic
        grind
    · rw [if_neg htype, List.getElem?_eq_none (by omega)]
      exact iff_of_true rfl nofun
  · rw [if_neg hstart]
    exact iff_of_true rfl fun h => absurd h hstart

/-- **The exceptions.** The two files are parsed to their ends if and only if every line of either
throws nothing, where the type of a line of `pci.ids` is that of the lines before it. -/
theorem parseDatabase_isSome_iff (pciIds pciConf : String) :
    (parseDatabase pciIds pciConf).isSome ↔
      Runs.Meets parseLine (fun st info => LineSafe st.idtype info) { devices := fun _ => none }
          (fileLines pciIds) ∧
        ∀ info ∈ fileLines pciConf, ConfigSafe info := by
  have hconfig : ∀ devices : Devices, (parseDeviceConfig devices pciConf).isSome ↔
      ∀ info ∈ fileLines pciConf, ConfigSafe info := by
    intro devices
    rw [parseDeviceConfig, Runs.follow_isSome_iff configLine_isSome_iff,
      Runs.meets_iff_forall fun st info => (configLine_isSome_iff st info).mpr]
  rw [← Runs.follow_isSome_iff parseLine_isSome_iff, parseDatabase, parsePciDevice]
  cases Runs.follow parseLine { devices := fun _ => none } (fileLines pciIds) with
  | none => exact iff_of_false nofun fun h => absurd h.1 nofun
  | some st => rw [Option.bind_eq_bind, Option.bind_some, hconfig, Option.isSome_some, eq_self, true_and]

/-- A list that ends within a subclass, and a graphics device whose entry ends with its type. -/
theorem parseDatabase_truncated :
    ¬ (parseDatabase "C 01  Mass storage controller\n\t0" "").isSome ∧
      ¬ (parseDatabase "" "8086 56c1 2\n").isSome := by
  decide

end PciDatabase

end XpuManager
