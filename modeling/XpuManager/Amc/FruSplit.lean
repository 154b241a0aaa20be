import XpuManager.Amc.FruText

/-! # Any bytes as a FRU table

What `parseFruTable` finds in bytes that need not be a table at all. -/

namespace XpuManager

open Prog

variable {fuel k n : Nat} {recordType encodingType : UInt8} {bs rest : Bytes} {t t' : FruTable}

/-! ## Fields -/

/-- The field that some bytes begin with, and the bytes behind it. -/
def takeField : Bytes → Option (FruField × Bytes)
  | fieldType :: fieldLength :: rest =>
    if fieldLength.toNat ≤ rest.length then
      some (⟨fieldType, rest.take fieldLength.toNat,
        (List.length_take_le _ _).trans (Nat.le_of_lt_succ fieldLength.toNat_lt)⟩,
        rest.drop fieldLength.toNat)
    else none
  | _ => none

/-- The next fields, as far as there are any; the bytes behind them if none is missing. -/
def splitFields : Nat → Bytes → List FruField × Option Bytes
  | 0, rest => ([], some rest)
  | n + 1, bs =>
    match takeField bs with
    | none => ([], none)
    | some (f, rest) => (f :: (splitFields n rest).1, (splitFields n rest).2)

theorem takeField_encode (f : FruField) (rest : Bytes) :
    takeField (f.encode ++ rest) = some (f, rest) := by
  have hlen : (UInt8.ofNat f.fieldData.length).toNat = f.fieldData.length :=
    UInt8.toNat_ofNat_of_lt' (Nat.lt_succ_of_le f.fieldLength_le)
  simp [takeField, FruField.encode, hlen]

/-- A field is taken off its own bytes. -/
theorem eq_of_takeField {f : FruField} (h : takeField bs = some (f, rest)) :
    bs = f.encode ++ rest := by
  unfold takeField at h
  split at h
  case h_2 => cases h
  case h_1 fieldType fieldLength tail =>
    split at h
    case isFalse => cases h
    case isTrue hle =>
      obtain ⟨rfl, rfl⟩ := Prod.mk.inj (Option.some.inj h)
      have hlen : (tail.take fieldLength.toNat).length = fieldLength.toNat :=
        List.length_take_of_le hle
      rw [FruField.encode, hlen, UInt8.ofNat_toNat, List.cons_append, List.cons_append,
        List.take_append_drop]

theorem splitFields_of_none (h : takeField bs = none) : splitFields (n + 1) bs = ([], none) := by
  rw [splitFields, h]

theorem splitFields_of_some {f : FruField} (h : takeField bs = some (f, rest)) :
    splitFields (n + 1) bs = (f :: (splitFields n rest).1, (splitFields n rest).2) := by
  rw [splitFields, h]

theorem splitFields_encode (fields : List FruField) (rest : Bytes) :
    splitFields fields.length (fields.flatMap FruField.encode ++ rest) = (fields, some rest) := by
  induction fields with
  | nil => rfl
  | cons f fields ih =>
    rw [List.flatMap_cons, List.append_assoc, List.length_cons,
      splitFields_of_some (takeField_encode f _), ih]

/-- Fields that are all there make up the bytes in front of the rest. -/
theorem eq_of_splitFields (h : (splitFields n bs).2 = some rest) :
    (splitFields n bs).1.length = n ∧
      bs = (splitFields n bs).1.flatMap FruField.encode ++ rest := by
  induction n generalizing bs with
  | zero => exact ⟨rfl, Option.some.inj h⟩
  | succ n ih =>
    cases htake : takeField bs with
    | none =>
      rw [splitFields_of_none htake] at h
      cases h
    | some field =>
      obtain ⟨f, tail⟩ := field
      rw [splitFields_of_some htake] at h ⊢
      obtain ⟨hlen, htail⟩ := ih h
      refine ⟨congrArg Nat.succ hlen, ?_⟩
      rw [List.flatMap_cons, List.append_assoc, ← htail]
      exact eq_of_takeField htake

theorem length_of_splitFields (h : (splitFields n bs).2 = some rest) : rest.length ≤ bs.length := by
  have hlen := congrArg List.length (eq_of_splitFields h).2
  rw [List.length_append] at hlen
  omega

/-! ## Records -/

/-- The fields that some bytes hold, with what their records say about them, and the status that
reading them ends with. -/
def splitTable : Nat → Bytes → List FruEntry × UInt8
  | k + 1, _ :: _ :: recordType :: numberOfFruFields :: encodingType :: rest =>
    let fields := splitFields numberOfFruFields.toNat rest
    let es := fields.1.map fun f => ⟨recordType, encodingType, f⟩
    match fields.2 with
    | none => (es, pldmError)
    | some rest => (es ++ (splitTable k rest).1, (splitTable k rest).2)
  | _, _ => ([], pldmSuccess)

/-- The fields that some bytes hold. -/
def tableEntries (bs : Bytes) : List FruEntry := (splitTable bs.length bs).1

/-- The bytes are records, and at most four bytes behind them. -/
def IsTable (bs : Bytes) : Prop :=
  ∃ (records : List FruRecord) (pad : Bytes), pad.length ≤ 4 ∧
    bs = records.flatMap FruRecord.encode ++ pad

/-- Less than a header ends the table. -/
theorem splitTable_pad (h : bs.length < 5) : splitTable k bs = ([], pldmSuccess) := by
  unfold splitTable
  split
  case h_1 =>
    simp only [List.length_cons] at h
    omega
  case h_2 => rfl

/-- Other bytes begin with a header. -/
theorem exists_header (h : ¬bs.length < 5) : ∃ id id' recordType number encodingType rest,
    bs = id :: id' :: recordType :: number :: encodingType :: rest := by
  match bs, h with
  | id :: id' :: recordType :: number :: encodingType :: rest, _ => exact ⟨_, _, _, _, _, _, rfl⟩
  | [], h | [_], h | [_, _], h | [_, _, _], h | [_, _, _, _], h => exact absurd (by simp) h

section Header

variable {id id' number : UInt8}

/-- A record whose fields are all there. -/
theorem splitTable_of_some {tail : Bytes} (h : (splitFields number.toNat rest).2 = some tail) :
    splitTable (k + 1) (id :: id' :: recordType :: number :: encodingType :: rest) =
      (((splitFields number.toNat rest).1.map fun f => ⟨recordType, encodingType, f⟩) ++
        (splitTable k tail).1, (splitTable k tail).2) := by
  rw [splitTable]
  simp only [h]

/-- A record that lacks a field. -/
theorem splitTable_of_none (h : (splitFields number.toNat rest).2 = none) :
    splitTable (k + 1) (id :: id' :: recordType :: number :: encodingType :: rest) =
      ((splitFields number.toNat rest).1.map fun f => ⟨recordType, encodingType, f⟩, pldmError) := by
  rw [splitTable]
  simp only [h]

/-- A record from its header and its fields. -/
theorem exists_record {tail : Bytes} (h : (splitFields number.toNat rest).2 = some tail) :
    ∃ r : FruRecord, id :: id' :: recordType :: number :: encodingType :: rest = r.encode ++ tail := by
  obtain ⟨hlen, hrest⟩ := eq_of_splitFields h
  have hnumber : number.toNat ≤ 255 := Nat.le_of_lt_succ number.toNat_lt
  refine ⟨⟨UInt16.ofNat (ofLeBytes [id, id']), recordType, encodingType,
    (splitFields number.toNat rest).1, hlen.trans_le hnumber⟩, ?_⟩
  have hid : leBytes 2 (UInt16.ofNat (ofLeBytes [id, id'])).toNat = [id, id'] := by
    have hsize : 256 ^ 2 ≤ UInt16.size := by decide
    rw [UInt16.toNat_ofNat_of_lt' (Nat.lt_of_lt_of_le (ofLeBytes_lt [id, id']) hsize)]
    exact leBytes_ofLeBytes [id, id']
  rw [FruRecord.encode]
  dsimp only
  rw [hid, hlen, UInt8.ofNat_toNat]
  conv_lhs => rw [hrest]
  simp

end Header

/-- The entries of a record come first. -/
theorem splitTable_encode (r : FruRecord) (rest : Bytes) :
    splitTable (k + 1) (r.encode ++ rest) =
      (r.entries ++ (splitTable k rest).1, (splitTable k rest).2) := by
  have hlen : (UInt8.ofNat r.fields.length).toNat = r.fields.length :=
    UInt8.toNat_ofNat_of_lt' (Nat.lt_succ_of_le r.numberOfFruFields_le)
  have hsplit := splitFields_encode r.fields rest
  rw [← hlen] at hsplit
  rw [FruRecord.encode, leBytes, leBytes, leBytes]
  simp only [List.cons_append, List.nil_append]
  rw [splitTable_of_some (by rw [hsplit]), hsplit]
  rfl

theorem FruRecord.length_encode_ge (r : FruRecord) : 5 ≤ r.encode.length := by
  simp only [FruRecord.encode, List.length_append, length_leBytes, List.length_cons]
  omega

/-- **The bytes that are a table.** -/
theorem splitTable_success_iff (hk : bs.length ≤ k) :
    (splitTable k bs).2 = pldmSuccess ↔ IsTable bs := by
  constructor
  · intro h
    induction k generalizing bs with
    | zero =>
      have hlen : bs.length ≤ 4 := hk.trans (by decide)
      exact ⟨[], bs, hlen, rfl⟩
    | succ k ih =>
      by_cases hpad : bs.length < 5
      · exact ⟨[], bs, Nat.le_of_lt_succ hpad, rfl⟩
      · obtain ⟨id, id', recordType, number, encodingType, rest, rfl⟩ := exists_header hpad
        cases hfields : (splitFields number.toNat rest).2 with
        | none =>
          rw [splitTable_of_none hfields] at h
          exact absurd (show pldmError = pldmSuccess from h) (by decide)
        | some tail =>
          have hle := length_of_splitFields hfields
          simp only [List.length_cons] at hk
          rw [splitTable_of_some hfields] at h
          have hshort : tail.length ≤ k := by omega
          obtain ⟨records, pad, hlen, rfl⟩ := ih hshort h
          obtain ⟨r, hr⟩ : ∃ r : FruRecord, id :: id' :: recordType :: number :: encodingType ::
              rest = r.encode ++ (records.flatMap FruRecord.encode ++ pad) :=
            exists_record hfields
          exact ⟨r :: records, pad, hlen, by rw [hr, List.flatMap_cons, List.append_assoc]⟩
  · rintro ⟨records, pad, hlen, rfl⟩
    induction records generalizing k with
    | nil => rw [List.flatMap_nil, List.nil_append, splitTable_pad (Nat.lt_succ_of_le hlen)]
    | cons r records ih =>
      have hr := r.length_encode_ge
      rw [List.flatMap_cons, List.append_assoc] at hk ⊢
      rw [List.length_append] at hk
      obtain ⟨k, rfl⟩ : ∃ j, k = j + 1 := ⟨k - 1, by omega⟩
      rw [splitTable_encode]
      exact ih (by omega)

/-! ## Runs of the parser -/

/-- Where no field is left the loop over the fields leaves. -/
theorem parseFields_of_none (h : takeField bs = none) :
    parseFields fuel recordType encodingType (n + 1) bs = pure none := by
  unfold parseFields
  split
  case h_1 heq => cases heq
  case h_2 fieldType fieldLength tail heq =>
    rw [takeField] at h
    split at h
    case isTrue => cases h
    case isFalse hlt => rw [if_pos (Nat.lt_of_not_le hlt)]
  case h_3 => rfl

/-- The loop over the fields of a record. -/
theorem parseFields_split (hfuel : decodeFuel ≤ fuel) (t : FruTable)
    (h : AllDecodable ((splitFields n bs).1.map fun f => ⟨recordType, encodingType, f⟩)) :
    parseFields fuel recordType encodingType n bs t = (.ret (splitFields n bs).2,
      t.afterFields ((splitFields n bs).1.map fun f => ⟨recordType, encodingType, f⟩)) := by
  induction n generalizing bs t with
  | zero => rfl
  | succ n ih =>
    cases htake : takeField bs with
    | none =>
      rw [parseFields_of_none htake, splitFields_of_none htake]
      rfl
    | some field =>
      obtain ⟨f, tail⟩ := field
      rw [splitFields_of_some htake] at h ⊢
      obtain ⟨ret, hret⟩ := parseFruField_run ⟨recordType, encodingType, f⟩
        (h _ List.mem_cons_self) hfuel t
      rw [eq_of_takeField htake, parseFields_encode, Prog.bind_of_ret hret]
      exact ih _ fun e he => h e (List.mem_cons_of_mem _ he)

/-- A parse that returns took exactly the fields `splitFields` cuts out. -/
theorem parseFields_split_ret {o : Option Bytes}
    (h : parseFields fuel recordType encodingType n bs t = (.ret o, t')) :
    AllDecodable ((splitFields n bs).1.map fun f => ⟨recordType, encodingType, f⟩) ∧
      o = (splitFields n bs).2 ∧
      t' = t.afterFields ((splitFields n bs).1.map fun f => ⟨recordType, encodingType, f⟩) := by
  induction n generalizing bs t with
  | zero =>
    obtain ⟨ho, rfl⟩ := Prod.mk.inj h
    exact ⟨fun e he => absurd he List.not_mem_nil, (Outcome.ret.inj ho).symm, rfl⟩
  | succ n ih =>
    cases htake : takeField bs with
    | none =>
      rw [parseFields_of_none htake] at h
      obtain ⟨ho, rfl⟩ := Prod.mk.inj h
      rw [splitFields_of_none htake]
      exact ⟨fun e he => absurd he List.not_mem_nil, (Outcome.ret.inj ho).symm, rfl⟩
    | some field =>
      obtain ⟨f, tail⟩ := field
      rw [eq_of_takeField htake, parseFields_encode] at h
      obtain ⟨ret, u, hfield, h⟩ := Prog.bind_eq_ret_iff.mp h
      obtain ⟨hend, rfl⟩ := parseFruField_ret ⟨recordType, encodingType, f⟩ hfield
      obtain ⟨hrest, rfl, rfl⟩ := ih h
      rw [splitFields_of_some htake]
      refine ⟨fun e he => ?_, rfl, rfl⟩
      rcases List.mem_cons.mp he with rfl | he
      · exact hend
      · exact hrest e he

/-- **A run on any bytes** stores what their fields are to store. -/
theorem loop_splitTable (hfuel : decodeFuel ≤ fuel) (hk : bs.length ≤ k) (t : FruTable)
    (h : AllDecodable (splitTable k bs).1) : Prog.loop (parseRecordSet fuel) (k + 1) bs t =
      (.ret (splitTable k bs).2, t.afterFields (splitTable k bs).1) := by
  induction k generalizing bs t with
  | zero =>
    obtain rfl := List.eq_nil_of_length_eq_zero (Nat.le_zero.mp hk)
    rfl
  | succ k ih =>
    by_cases hpad : bs.length < 5
    · rw [Prog.loop_succ_of_leave (by rw [parseRecordSet_pad hpad]; rfl), splitTable_pad hpad]
      rfl
    · obtain ⟨id, id', recordType, number, encodingType, rest, rfl⟩ := exists_header hpad
      cases hfields : (splitFields number.toNat rest).2 with
      | none =>
        rw [splitTable_of_none hfields] at h ⊢
        refine Prog.loop_succ_of_leave ?_
        rw [parseRecordSet, Prog.bind_of_ret (parseFields_split hfuel t h), hfields]
        rfl
      | some tail =>
        have hle := length_of_splitFields hfields
        simp only [List.length_cons] at hk
        rw [splitTable_of_some hfields] at h ⊢
        obtain ⟨hrecord, hrest⟩ := allDecodable_append.mp h
        have hturn := parseFields_split (n := number.toNat) hfuel t hrecord
        rw [hfields] at hturn
        rw [Prog.loop_succ_of_turn (by rw [parseRecordSet, Prog.bind_of_ret hturn]; rfl),
          ih (by omega) _ hrest, afterFields_append]

/-- A run that returns has decoded every field, and stored what they are to store. -/
theorem loop_splitTable_ret {m : Nat} {ret : UInt8} (hk : bs.length ≤ k)
    (h : Prog.loop (parseRecordSet fuel) m bs t = (.ret ret, t')) :
    AllDecodable (splitTable k bs).1 ∧ ret = (splitTable k bs).2 ∧
      t' = t.afterFields (splitTable k bs).1 := by
  induction k generalizing bs t m with
  | zero =>
    obtain rfl := List.eq_nil_of_length_eq_zero (Nat.le_zero.mp hk)
    cases m with
    | zero => cases h
    | succ m =>
      obtain ⟨hret, rfl⟩ := Prod.mk.inj h
      exact ⟨fun e he => absurd he List.not_mem_nil, (Outcome.ret.inj hret).symm, rfl⟩
  | succ k ih =>
    cases m with
    | zero => cases h
    | succ m =>
      by_cases hpad : bs.length < 5
      · rw [Prog.loop_succ_of_leave (by rw [parseRecordSet_pad hpad]; rfl)] at h
        obtain ⟨hret, rfl⟩ := Prod.mk.inj h
        rw [splitTable_pad hpad]
        exact ⟨fun e he => absurd he List.not_mem_nil, (Outcome.ret.inj hret).symm, rfl⟩
      · obtain ⟨id, id', recordType, number, encodingType, rest, rfl⟩ := exists_header hpad
        obtain ⟨o, u, hturn, hloop⟩ := Prog.bind_eq_ret_iff.mp h
        rw [parseRecordSet] at hturn
        obtain ⟨left, v, hfields, hleave⟩ := Prog.bind_eq_ret_iff.mp hturn
        obtain ⟨hrecord, rfl, rfl⟩ := parseFields_split_ret hfields
        cases hleft : (splitFields number.toNat rest).2 with
        | none =>
          rw [hleft] at hleave
          obtain ⟨ho, rfl⟩ := Prod.mk.inj hleave
          obtain rfl := Outcome.ret.inj ho
          obtain ⟨hret, rfl⟩ := Prod.mk.inj hloop
          rw [splitTable_of_none hleft]
          exact ⟨hrecord, (Outcome.ret.inj hret).symm, rfl⟩
        | some tail =>
          rw [hleft] at hleave
          obtain ⟨ho, rfl⟩ := Prod.mk.inj hleave
          obtain rfl := Outcome.ret.inj ho
          have hle := length_of_splitFields hleft
          simp only [List.length_cons] at hk
          have hshort : tail.length ≤ k := by omega
          obtain ⟨hrest, rfl, rfl⟩ := ih hshort hloop
          rw [splitTable_of_some hleft, allDecodable_append, afterFields_append]
          exact ⟨⟨hrecord, hrest⟩, rfl, rfl⟩

/-- A run of `parseFruTable` that returns. -/
theorem parseFruTable_split_ret {ret : UInt8} (hne : bs ≠ [])
    (h : parseFruTable fuel bs t = (.ret ret, t')) : AllDecodable (tableEntries bs) ∧
      ret = (splitTable bs.length bs).2 ∧ t' = FruTable.cleared.afterFields (tableEntries bs) := by
  rw [parseFruTable, if_neg hne] at h
  exact loop_splitTable_ret (Nat.le_refl _) h

/-- Parsing returns with enough fuel, if every field decodes. -/
theorem parseFruTable_split (hne : bs ≠ []) (t : FruTable) (h : AllDecodable (tableEntries bs)) :
    ∃ fuel, parseFruTable fuel bs t =
      (.ret (splitTable bs.length bs).2, FruTable.cleared.afterFields (tableEntries bs)) := by
  refine ⟨bs.length + 1 + decodeFuel, ?_⟩
  rw [parseFruTable, if_neg hne]
  have hrun := loop_splitTable (Nat.le_add_left decodeFuel (bs.length + 1)) (Nat.le_refl bs.length)
    FruTable.cleared h
  have hmore := Prog.loop_add_of_ne_cut (fun u hcut => by rw [hrun] at hcut; cases hcut) decodeFuel
  exact hmore.trans hrun

/-! ## When parsing ends -/

/-- **When parsing ends.** A text is decoded, each unit of it once, and a field parsed, unless it is a
UTF-16 field of 255 bytes; a table is parsed unless it holds such a field. -/
theorem parseFruTable_terminates_iff (t : FruTable) :
    (∀ e : FruEntry,
      (∃ fuel, decodeText fuel e.encodingType e.field.fieldData t =
        (.ret (fieldText e.encodingType e.field.fieldData), t)) ↔
          ¬Endless e.encodingType e.field.fieldData) ∧
    (∀ e : FruEntry,
      (∃ fuel ret t', parseFruField fuel e.field.fieldData e.field.fieldType e.recordType
        e.encodingType t = (.ret ret, t')) ↔ ¬Endless e.encodingType e.field.fieldData) ∧
    ∀ bs : Bytes,
      (∃ fuel ret t', parseFruTable fuel bs t = (.ret ret, t')) ↔ AllDecodable (tableEntries bs) := by
  refine ⟨fun e => ⟨?_, ?_⟩, fun e => ⟨?_, ?_⟩, fun bs => ⟨?_, ?_⟩⟩
  · rintro ⟨fuel, h⟩
    exact (decodeText_ret e.field.fieldLength_le h).1
  · exact fun h => ⟨decodeFuel, decodeText_run e.field.fieldLength_le h (Nat.le_refl _)⟩
  · rintro ⟨fuel, ret, t', h⟩
    exact (parseFruField_ret e h).1
  · intro h
    obtain ⟨ret, hret⟩ := parseFruField_run e h (Nat.le_refl decodeFuel) t
    exact ⟨decodeFuel, ret, _, hret⟩
  · rintro ⟨fuel, ret, t', h⟩
    by_cases hne : bs = []
    · rw [hne]
      exact fun e he => absurd he List.not_mem_nil
    · exact (parseFruTable_split_ret hne h).1
  · intro h
    by_cases hne : bs = []
    · exact ⟨0, pldmError, t, by rw [parseFruTable, if_pos hne]; rfl⟩
    · obtain ⟨fuel, hfuel⟩ := parseFruTable_split hne t h
      exact ⟨fuel, _, _, hfuel⟩

/-- A general record with one UTF-16 field of 255 bytes. -/
def endlessTable : Bytes :=
  [1, 0, fruRecordTypeGeneral, 1, fruRecordEncodingTypeUtf16, 0x02, 255] ++ List.replicate 255 65

/-- The loop over the text of that field has no end. -/
theorem parseFruTable_endlessTable :
    ¬∃ fuel ret t, parseFruTable fuel endlessTable FruTable.cleared = (.ret ret, t) := by
  rintro ⟨fuel, ret, t, h⟩
  obtain ⟨hall, -⟩ := parseFruTable_split_ret (by decide) h
  have hmem : (tableEntries endlessTable).any fun e =>
      e.encodingType = fruRecordEncodingTypeUtf16 ∧ e.field.fieldData.length = 255 := by
    decide +kernel
  obtain ⟨e, he, hend⟩ := List.any_eq_true.mp hmem
  have hendless := of_decide_eq_true hend
  exact hall e he hendless

end XpuManager
