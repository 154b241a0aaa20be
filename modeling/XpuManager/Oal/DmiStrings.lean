import XpuManager.Oal.DmiReader

/-! # The strings of a DMI structure

A structure of the DMI table ends with its strings, each with a zero behind it, and one more zero.
`getStringFromTable` (`oal/lin/dmi_reader.cpp`) counts zeros from there on, through the whole table.
-/

namespace XpuManager

open Spans

/-- The part of a span after so many zeros, up to the next. -/
def piece (span : List UInt8) (k : Nat) : List UInt8 := ((span.splitOn 0)[k]?).getD []

variable {span : List UInt8}

/-- A span with a zero is what comes before the first, and what comes behind. -/
theorem exists_front_of_mem (h : 0 ∈ span) :
    ∃ front rest, span = front ++ 0 :: rest ∧ span.idxOf 0 = front.length ∧
      span.splitOn 0 = front :: rest.splitOn 0 := by
  obtain ⟨front, rest, rfl, hnot⟩ := List.eq_append_cons_of_mem h
  refine ⟨front, rest, rfl, ?_, List.splitOn_append_cons_self_of_not_mem hnot rest⟩
  rw [List.idxOf_append_of_notMem hnot, List.idxOf_cons_self, Nat.add_zero]

theorem piece_zero (span : List UInt8) : piece span 0 = span.take (span.idxOf 0) := by
  by_cases h : 0 ∈ span
  · obtain ⟨front, rest, hspan, hidx, hsplit⟩ := exists_front_of_mem h
    rw [piece, hsplit, hidx, hspan, List.take_left]
    rfl
  · rw [piece, List.splitOn_eq_singleton h, List.idxOf_eq_length h, List.take_length]
    rfl

theorem piece_nil (k : Nat) : piece [] k = [] := by
  cases k <;> rfl

/-- Without a zero there is one piece. -/
theorem piece_succ_of_not_mem (h : 0 ∉ span) (k : Nat) : piece span (k + 1) = [] := by
  rw [piece, List.splitOn_eq_singleton h]
  rfl

/-- A turn of the loop goes behind the next zero. -/
theorem skipStrings_succ {stringArea : List UInt8} {pos : Nat} (count : Nat)
    (hpos : pos ≤ stringArea.length) :
    skipStrings stringArea (count + 1) pos =
      if 0 ∈ stringArea.drop pos then
        if stringArea.length ≤ pos + (stringArea.drop pos).idxOf 0 + 1 then .ok none
        else skipStrings stringArea count (pos + (stringArea.drop pos).idxOf 0 + 1)
      else .ok none := by
  rw [skipStrings, subspan_eq hpos]
  rfl

/-- The loop finds the beginning of a piece, or there is nothing in it. -/
theorem skipStrings_eq (stringArea : List UInt8) (count pos : Nat) (hpos : pos ≤ stringArea.length) :
    (skipStrings stringArea count pos = .ok none ∧ piece (stringArea.drop pos) count = []) ∨
      ∃ found ≤ stringArea.length, skipStrings stringArea count pos = .ok (some found) ∧
        piece (stringArea.drop found) 0 = piece (stringArea.drop pos) count := by
  induction count generalizing pos with
  | zero => exact .inr ⟨pos, hpos, rfl, rfl⟩
  | succ count ih =>
    rw [skipStrings_succ count hpos]
    by_cases hzero : 0 ∈ stringArea.drop pos
    · obtain ⟨front, rest, hspan, hidx, hsplit⟩ := exists_front_of_mem hzero
      have hrest : stringArea.drop (pos + front.length + 1) = rest := by
        rw [Nat.add_assoc, ← List.drop_drop, hspan, ← List.drop_drop, List.drop_left]
        rfl
      have hpiece : piece (stringArea.drop pos) (count + 1) = piece rest count := by
        rw [piece, hsplit, List.getElem?_cons_succ]
        rfl
      rw [if_pos hzero, hidx, hpiece]
      by_cases hend : stringArea.length ≤ pos + front.length + 1
      · rw [List.drop_eq_nil_of_le hend] at hrest
        rw [if_pos hend, ← hrest]
        exact .inl ⟨rfl, piece_nil count⟩
      · rw [if_neg hend, ← hrest]
        exact ih _ (Nat.le_of_not_le hend)
    · rw [if_neg hzero]
      exact .inl ⟨rfl, piece_succ_of_not_mem hzero count⟩

/-- **A string is a piece of the rest of the table**, cut at 256 bytes. -/
theorem getStringFromTable_eq (dmiData : List UInt8) (structureOffset : Nat)
    (structureLength : UInt8) {stringIndex : UInt8} (hindex : stringIndex ≠ 0) :
    getStringFromTable dmiData structureOffset structureLength stringIndex =
      .ok ((piece (dmiData.drop (structureOffset + structureLength.toNat))
        (stringIndex.toNat - 1)).take 256) := by
  rw [getStringFromTable, if_neg hindex]
  dsimp only
  by_cases hend : dmiData.length ≤ structureOffset + structureLength.toNat
  · rw [if_pos hend, List.drop_eq_nil_of_le hend, piece_nil]
    rfl
  rw [if_neg hend, subspan_eq (Nat.le_of_not_le hend)]
  set stringArea := dmiData.drop (structureOffset + structureLength.toNat)
  rcases skipStrings_eq stringArea (stringIndex.toNat - 1) 0 (Nat.zero_le _) with
    ⟨hskip, hpiece⟩ | ⟨pos, hpos, hskip, hpiece⟩
  · rw [List.drop_zero] at hpiece
    rw [hpiece, bind_ok, hskip]
    rfl
  · have hlength : 0 + min ((stringArea.drop pos).idxOf 0) maxStringLength ≤
        (stringArea.drop pos).length := by
      have := (stringArea.drop pos).idxOf_le_length (a := 0)
      omega
    rw [List.drop_zero] at hpiece
    rw [bind_ok, hskip, bind_ok]
    dsimp only
    rw [subspan_eq hpos, bind_ok, subspanOf_eq hlength, ← hpiece, piece_zero, List.drop_zero,
      List.take_take, Nat.min_comm]
    rfl

/-! ## Well-formed structures -/

/-- A structure with its strings, which are not empty and have no zero. -/
structure DmiStructure where
  type : UInt8
  handle : UInt16
  /-- The formatted area behind the header. -/
  fields : List UInt8
  strings : List (List UInt8)
  fields_length : sizeofHeader + fields.length < 256
  strings_isString : ∀ string ∈ strings, string ≠ [] ∧ 0 ∉ string

namespace DmiStructure

/-- The length of the structure without its texts. -/
def length (s : DmiStructure) : UInt8 := UInt8.ofNat (sizeofHeader + s.fields.length)

/-- The strings and what ends them; without strings there are two zeros. -/
def stringSet (s : DmiStructure) : List UInt8 :=
  if s.strings = [] then [0, 0] else s.strings.flatMap (· ++ [0]) ++ [0]

/-- The structure as it lies in the table. -/
def bytes (s : DmiStructure) : List UInt8 :=
  [s.type, s.length, s.handle.toUInt8, (s.handle >>> 8).toUInt8] ++ s.fields ++ s.stringSet

/-- The string of an index, cut at 256 bytes, or nothing. -/
def string (s : DmiStructure) (stringIndex : UInt8) : List UInt8 :=
  if stringIndex = 0 then [] else ((s.strings[stringIndex.toNat - 1]?).getD []).take 256

end DmiStructure

/-- A table of some structures. -/
def tableBytes (structures : List DmiStructure) : List UInt8 := structures.flatMap DmiStructure.bytes

/-- The index is one of the strings, or that of the end of them, or it leads to nothing in the structures
behind. -/
def StaysInside (s : DmiStructure) (after : List DmiStructure) (stringIndex : UInt8) : Prop :=
  stringIndex.toNat ≤ max s.strings.length 1 + 1 ∨
    piece (tableBytes after) (stringIndex.toNat - (max s.strings.length 1 + 2)) = []

variable {s : DmiStructure} {before after : List DmiStructure}

theorem splitOn_flatMap {strings : List (List UInt8)} (h : ∀ string ∈ strings, 0 ∉ string)
    (rest : List UInt8) :
    (strings.flatMap (· ++ [0]) ++ rest).splitOn 0 = strings ++ rest.splitOn 0 := by
  induction strings with
  | nil => rfl
  | cons string strings ih =>
    obtain ⟨hstring, hstrings⟩ := List.forall_mem_cons.mp h
    rw [List.flatMap_cons, List.append_assoc, List.append_assoc, List.singleton_append,
      List.splitOn_append_cons_self_of_not_mem hstring, ih hstrings]
    rfl

/-- The pieces from the string set on: the strings, or nothing for them, nothing, and what the structures
behind have. -/
theorem splitOn_stringSet (s : DmiStructure) (rest : List UInt8) :
    (s.stringSet ++ rest).splitOn 0 =
      (if s.strings = [] then [[]] else s.strings) ++ [] :: rest.splitOn 0 := by
  rw [DmiStructure.stringSet]
  split
  · rfl
  · rw [List.append_assoc, splitOn_flatMap fun string h => (s.strings_isString string h).2]
    exact congrArg _ (List.splitOn_append_cons_self_of_not_mem List.not_mem_nil rest)

theorem length_toNat (s : DmiStructure) : s.length.toNat = sizeofHeader + s.fields.length := by
  rw [DmiStructure.length, UInt8.toNat_ofNat']
  exact Nat.mod_eq_of_lt s.fields_length

theorem tableBytes_append (before after : List DmiStructure) (s : DmiStructure) :
    tableBytes (before ++ s :: after) = tableBytes before ++ (s.bytes ++ tableBytes after) :=
  List.flatMap_append.trans (congrArg _ List.flatMap_cons)

/-- Behind the formatted area of a structure there are its strings and the structures behind. -/
theorem drop_tableBytes (before after : List DmiStructure) (s : DmiStructure) :
    (tableBytes (before ++ s :: after)).drop ((tableBytes before).length + s.length.toNat) =
      s.stringSet ++ tableBytes after := by
  rw [tableBytes_append, ← List.drop_drop, List.drop_left, DmiStructure.bytes, List.append_assoc,
    List.drop_left']
  rw [length_toNat, List.length_append]
  rfl

/-- The string of an index is a piece of the string set, if the index does not go beyond. -/
theorem piece_stringSet (s : DmiStructure) (rest : List UInt8) (k : Nat) :
    piece (s.stringSet ++ rest) k =
      if k ≤ max s.strings.length 1 then (s.strings[k]?).getD []
      else piece rest (k - (max s.strings.length 1 + 1)) := by
  rw [piece, splitOn_stringSet]
  by_cases hnil : s.strings = []
  · rw [if_pos hnil, hnil]
    match k with
    | 0 => rfl
    | 1 => rfl
    | k + 2 => rfl
  · have hpos : 1 ≤ s.strings.length := List.length_pos_iff.mpr hnil
    rw [if_neg hnil, Nat.max_eq_left hpos]
    rcases Nat.lt_trichotomy k s.strings.length with hlt | heq | hgt
    · rw [if_pos hlt.le, List.getElem?_append_left hlt]
    · rw [if_pos heq.le, List.getElem?_append_right heq.ge, heq, Nat.sub_self,
        List.getElem?_eq_none (Nat.le_refl _)]
      rfl
    · obtain ⟨j, rfl⟩ := Nat.exists_eq_add_of_lt hgt
      rw [if_neg (by omega), List.getElem?_append_right (by omega), piece]
      have hleft : s.strings.length + j + 1 - s.strings.length = j + 1 := by omega
      have hright : s.strings.length + j + 1 - (s.strings.length + 1) = j := by omega
      rw [hleft, hright]
      rfl

/-- **When a string of a structure is returned.** In a table of well-formed structures an index gives its
string, or nothing if there is none, exactly if it stays inside the strings or meets nothing behind. -/
theorem getStringFromTable_iff (before after : List DmiStructure) (s : DmiStructure)
    (stringIndex : UInt8) :
    getStringFromTable (tableBytes (before ++ s :: after)) (tableBytes before).length s.length
        stringIndex = .ok (s.string stringIndex) ↔
      StaysInside s after stringIndex := by
  unfold StaysInside DmiStructure.string
  by_cases hzero : stringIndex = 0
  · subst hzero
    exact iff_of_true rfl (.inl (Nat.zero_le _))
  have hpos : 0 < stringIndex.toNat :=
    Nat.pos_of_ne_zero fun h => hzero (UInt8.toNat_inj.mp h)
  rw [getStringFromTable_eq _ _ _ hzero, drop_tableBytes, piece_stringSet, if_neg hzero,
    Except.ok.injEq]
  by_cases hle : stringIndex.toNat - 1 ≤ max s.strings.length 1
  · rw [if_pos hle]
    exact iff_of_true rfl (.inl (by omega))
  · have hnone : s.strings[stringIndex.toNat - 1]? = none :=
      List.getElem?_eq_none (by omega)
    have hindex : stringIndex.toNat - 1 - (max s.strings.length 1 + 1) =
        stringIndex.toNat - (max s.strings.length 1 + 2) := by omega
    rw [if_neg hle, hnone, hindex, or_iff_right (by omega)]
    show List.take 256 _ = [] ↔ _
    rw [List.take_eq_nil_iff]
    simp

/-- A slot with one string, `J1`, and a system with the maker `Intel`. -/
def sampleSlot : DmiStructure where
  type := 9
  handle := 0x0109
  fields := [3, 0xB6, 0x0D, 3, 4, 1, 0, 4, 3]
  strings := [[0x4A, 0x31]]
  fields_length := by decide
  strings_isString := by decide

def sampleSystem : DmiStructure where
  type := 1
  handle := 0x0101
  fields := [1, 0, 0, 0]
  strings := [[0x49, 0x6E, 0x74, 0x65, 0x6C]]
  fields_length := by decide
  strings_isString := by decide

/-- The third string of the slot, which has one, are the first bytes of the system. -/
theorem getStringFromTable_nextStructure :
    getStringFromTable (tableBytes [sampleSlot, sampleSystem]) 0 sampleSlot.length 3 ≠
      .ok (sampleSlot.string 3) := by
  have hread : getStringFromTable (tableBytes [sampleSlot, sampleSystem]) 0 sampleSlot.length 3 =
      .ok [1, 8, 1, 1, 1] := by decide
  have hnone : sampleSlot.string 3 = [] := by decide
  rw [hread, hnone]
  intro h
  cases h

end XpuManager
