import XpuManager.Amc.FruSplit

/-! # Where the FRU parser reads

`parseFruTable` with its offset into the data and each read it makes there. -/

namespace XpuManager

open Prog

/-- `sizeof(struct fruRecordSetHandler)`. -/
abbrev fruRecordSetHandlerSize : Nat := 5

/-! ## The parser -/

/-- `fruData[offset]`; outside the data is undefined behaviour. -/
def fruByte (fruData : Bytes) (offset : Nat) : Prog FruTable UInt8 := Prog.ofOption fruData[offset]?

/-- The bytes behind `fruData + offset` that are read; outside the data is undefined behaviour. -/
def fruRange (fruData : Bytes) (offset len : Nat) : Prog FruTable Bytes :=
  if offset + len ≤ fruData.length then pure ((fruData.drop offset).take len) else Prog.fault

/-- One turn of the loop over the fields of a record. -/
def fieldTurn (fuel : Nat) (fruData : Bytes) (recordType encodingType : UInt8) (_fieldIdx : Nat)
    (offset : Nat) : Prog FruTable (UInt8 ⊕ Nat) :=
  if offset ≥ fruData.length then pure (.inl pldmError)
  else do
    let fieldType ← fruByte fruData offset
    if offset + 1 ≥ fruData.length then pure (.inl pldmError)
    else do
      let fieldLength ← fruByte fruData (offset + 1)
      if offset + 2 + fieldLength.toNat > fruData.length then pure (.inl pldmError)
      else do
        let fieldData ← fruRange fruData (offset + 2) fieldLength.toNat
        -- the status of a field is only logged
        let _ ← parseFruField fuel fieldData fieldType recordType encodingType
        pure (.inr (offset + 2 + fieldLength.toNat))

/-- One turn of the loop over record sets. -/
def recordSetTurn (fuel : Nat) (fruData : Bytes) (offset : Nat) : Prog FruTable (Nat ⊕ UInt8) :=
  if ¬offset < fruData.length then pure (.inr pldmSuccess)
  else if offset + fruRecordSetHandlerSize > fruData.length then pure (.inr pldmSuccess)
  else do
    let header ← fruRange fruData offset fruRecordSetHandlerSize
    let ret ← Prog.forEach (fieldTurn fuel fruData (header.getD 2 0) (header.getD 4 0))
      (List.range (header.getD 3 0).toNat) (offset + fruRecordSetHandlerSize)
    match ret with
    | .inl ret => pure (.inr ret)
    | .inr offset => pure (.inl offset)

/-- `parseFruTable`. -/
def parseFruTableAt (fuel : Nat) (fruData : Bytes) : Prog FruTable UInt8 :=
  if fruData = [] then pure pldmError
  else do
    Prog.modify fun _ => FruTable.cleared
    Prog.loop (recordSetTurn fuel fruData) fuel 0

/-! ## What a turn reads -/

variable {fuel offset : Nat} {fruData rest : Bytes} {recordType encodingType : UInt8}

theorem fruByte_eq {i : Nat} (h : i < (fruData.drop offset).length) :
    fruByte fruData (offset + i) = pure ((fruData.drop offset).getD i 0) := by
  rw [fruByte, ← List.getElem?_drop, List.getElem?_eq_getElem h, List.getD_eq_getElem _ _ h]
  rfl

/-- Where no field is left the loop leaves, and has read what there is at most. -/
theorem fieldTurn_of_none (i : Nat) (h : takeField (fruData.drop offset) = none) :
    fieldTurn fuel fruData recordType encodingType i offset = pure (.inl pldmError) := by
  have hlen : (fruData.drop offset).length = fruData.length - offset := List.length_drop
  unfold fieldTurn
  by_cases hfirst : offset ≥ fruData.length
  · rw [if_pos hfirst]
  have hbyte : fruByte fruData (offset + 0) = pure ((fruData.drop offset).getD 0 0) :=
    fruByte_eq (by omega)
  rw [Nat.add_zero] at hbyte
  rw [if_neg hfirst, hbyte, Prog.pure_bind]
  by_cases hsecond : offset + 1 ≥ fruData.length
  · rw [if_pos hsecond]
  rw [if_neg hsecond, fruByte_eq (by omega), Prog.pure_bind]
  match hbs : fruData.drop offset, h with
  | [], _ =>
    rw [hbs, List.length_nil] at hlen
    omega
  | [_], _ =>
    rw [hbs, List.length_singleton] at hlen
    omega
  | _ :: fieldLength :: tail, h =>
    rw [takeField] at h
    rw [hbs] at hlen
    simp only [List.length_cons] at hlen
    split at h
    case isTrue => cases h
    case isFalse hlong =>
      refine if_pos ?_
      change offset + 2 + fieldLength.toNat > fruData.length
      omega

/-- **A field** is read where it is, and the offset moves behind it. -/
theorem fieldTurn_of_some (i : Nat) {f : FruField}
    (h : takeField (fruData.drop offset) = some (f, rest)) :
    fieldTurn fuel fruData recordType encodingType i offset =
      (parseFruField fuel f.fieldData f.fieldType recordType encodingType >>= fun _ =>
        pure (.inr (offset + f.encode.length))) ∧
      fruData.drop (offset + f.encode.length) = rest ∧ offset + f.encode.length ≤ fruData.length := by
  have hbs := eq_of_takeField h
  have hfield : (UInt8.ofNat f.fieldData.length).toNat = f.fieldData.length :=
    UInt8.toNat_ofNat_of_lt' (Nat.lt_succ_of_le f.fieldLength_le)
  have hencode : f.encode.length = 2 + f.fieldData.length := by
    simp only [FruField.encode, List.length_cons]
    omega
  have hlen : f.encode.length + rest.length = fruData.length - offset := by
    rw [← List.length_append, ← hbs, List.length_drop]
  have hbyte (j : Nat) (hj : j < 2) :
      fruByte fruData (offset + j) = pure ((f.encode ++ rest).getD j 0) := by
    rw [fruByte_eq (by rw [hbs, List.length_append]; omega), hbs]
  refine ⟨?_, ?_, by omega⟩
  · unfold fieldTurn
    rw [if_neg (by omega), ← Nat.add_zero offset, hbyte 0 (by decide), Prog.pure_bind,
      Nat.add_zero, if_neg (by omega), hbyte 1 (by decide), Prog.pure_bind]
    have hsecond : (f.encode ++ rest).getD 1 0 = UInt8.ofNat f.fieldData.length := rfl
    have hdata : fruRange fruData (offset + 2) f.fieldData.length = pure f.fieldData := by
      rw [fruRange, if_pos (by omega), ← List.drop_drop, hbs]
      simp [FruField.encode]
    rw [hsecond, hfield, if_neg (by omega), hdata, Prog.pure_bind, hencode, ← Nat.add_assoc]
    rfl
  · rw [← List.drop_drop, hbs, List.drop_left]

/-- The loop over the fields is the one over what is left of the data. -/
theorem forEach_fieldTurn (is : List Nat) (offset : Nat) :
    (Prog.forEach (fieldTurn fuel fruData recordType encodingType) is offset >>= fun
      | .inl _ => pure none
      | .inr offset => pure (some (fruData.drop offset))) =
      parseFields fuel recordType encodingType is.length (fruData.drop offset) := by
  induction is generalizing offset with
  | nil => rfl
  | cons i is ih =>
    rw [Prog.forEach, List.length_cons]
    cases htake : takeField (fruData.drop offset) with
    | none => rw [fieldTurn_of_none i htake, parseFields_of_none htake]; rfl
    | some field =>
      obtain ⟨f, rest⟩ := field
      obtain ⟨hturn, hrest, -⟩ :=
        @fieldTurn_of_some fuel offset fruData rest recordType encodingType i f htake
      rw [hturn, eq_of_takeField htake, parseFields_encode, ← hrest, ← ih]
      simp only [Prog.bind_assoc, Prog.pure_bind]

/-- The turn at a header reads it and goes on behind it. -/
theorem recordSetTurn_of_header {id id' number : UInt8}
    (h : fruData.drop offset = id :: id' :: recordType :: number :: encodingType :: rest) :
    recordSetTurn fuel fruData offset =
      (Prog.forEach (fieldTurn fuel fruData recordType encodingType) (List.range number.toNat)
        (offset + 5) >>= fun
          | .inl ret => pure (.inr ret)
          | .inr offset => pure (.inl offset)) ∧
      fruData.drop (offset + 5) = rest := by
  have hlen : (fruData.drop offset).length = fruData.length - offset := List.length_drop
  rw [h] at hlen
  simp only [List.length_cons] at hlen
  have hsize : fruRecordSetHandlerSize = 5 := rfl
  constructor
  · unfold recordSetTurn
    rw [if_neg (by omega), if_neg (by omega), fruRange, if_pos (by omega), Prog.pure_bind, h]
    rfl
  · rw [← List.drop_drop, h]
    rfl

/-- Less than a header ends the loop. -/
theorem recordSetTurn_pad (h : (fruData.drop offset).length < 5) :
    recordSetTurn fuel fruData offset = pure (.inr pldmSuccess) := by
  have hsize : fruRecordSetHandlerSize = 5 := rfl
  rw [List.length_drop] at h
  unfold recordSetTurn
  by_cases hend : offset < fruData.length
  · rw [if_neg (not_not.mpr hend), if_pos (by omega)]
  · rw [if_pos hend]

/-- What a loop over the fields that leaves leaves with. -/
theorem forEach_fieldTurn_leave {is : List Nat} {t t' : FruTable} {ret : UInt8}
    (h : Prog.forEach (fieldTurn fuel fruData recordType encodingType) is offset t =
      (.ret (.inl ret), t')) : ret = pldmError := by
  obtain ⟨pre, i, post, offset', u, -, -, hturn⟩ := Prog.forEach_eq_leave_iff.mp h
  cases htake : takeField (fruData.drop offset') with
  | none =>
    rw [fieldTurn_of_none i htake] at hturn
    exact (Sum.inl.inj (pure_eq_ret_iff.mp hturn).1).symm
  | some field =>
    obtain ⟨f, rest⟩ := field
    rw [(fieldTurn_of_some i htake).1] at hturn
    obtain ⟨a, u, -, hpure⟩ := Prog.bind_eq_ret_iff.mp hturn
    simp at hpure

/-- The turn of the loop over record sets is the one over what is left of the data. -/
theorem recordSetTurn_eq (offset : Nat) :
    (recordSetTurn fuel fruData offset >>= fun
      | .inl offset => pure (.inl (fruData.drop offset))
      | .inr ret => pure (.inr ret)) = parseRecordSet fuel (fruData.drop offset) := by
  by_cases hpad : (fruData.drop offset).length < 5
  · rw [recordSetTurn_pad hpad, parseRecordSet_pad hpad]
    rfl
  · obtain ⟨id, id', recordType, number, encodingType, rest, hbs⟩ := exists_header hpad
    obtain ⟨hturn, hrest⟩ := 
      @recordSetTurn_of_header fuel offset fruData rest recordType encodingType id id' number hbs
    have hfields := @forEach_fieldTurn fuel fruData recordType encodingType (List.range number.toNat)
      (offset + 5)
    rw [List.length_range, hrest] at hfields
    rw [hturn, hbs, parseRecordSet, ← hfields]
    simp only [Prog.bind_assoc]
    funext t
    rcases hloop : Prog.forEach (fieldTurn fuel fruData recordType encodingType)
      (List.range number.toNat) (offset + 5) t with ⟨(ret | offset') | _ | _, u⟩
    · rw [Prog.bind_of_ret hloop, Prog.bind_of_ret hloop, forEach_fieldTurn_leave hloop]
      rfl
    · rw [Prog.bind_of_ret hloop, Prog.bind_of_ret hloop]
      rfl
    · rw [Prog.bind_of_fault hloop, Prog.bind_of_fault hloop]
    · rw [Prog.bind_of_cut hloop, Prog.bind_of_cut hloop]

/-- **The two parsers are one.** -/
theorem parseFruTableAt_eq (fuel : Nat) (fruData : Bytes) :
    parseFruTableAt fuel fruData = parseFruTable fuel fruData := by
  have hloop (k offset : Nat) : Prog.loop (recordSetTurn fuel fruData) k offset =
      Prog.loop (parseRecordSet fuel) k (fruData.drop offset) := by
    induction k generalizing offset with
    | zero => rfl
    | succ k ih =>
      rw [Prog.loop, Prog.loop, ← recordSetTurn_eq, Prog.bind_assoc]
      congr 1
      funext next
      cases next with
      | inl offset' => exact ih offset'
      | inr ret => rfl
  rw [parseFruTableAt, parseFruTable, hloop]
  rfl

/-! ## Reads inside the data -/

/-- No field parser reads outside its bytes. -/
theorem faultless_parseFruField (fuel : Nat) (fieldData : Bytes)
    (fieldType recordType encodingType : UInt8) :
    Faultless (parseFruField fuel fieldData fieldType recordType encodingType) := by
  have hturn (b : UInt8 × Bytes) : Faultless (utf16Turn fieldData b) := by
    unfold utf16Turn
    intro t
    dsimp only
    split_ifs <;> exact fun h => by cases h
  have hdecode : Faultless (decodeText fuel encodingType fieldData) := by
    unfold decodeText
    split
    · exact Faultless.loop hturn _ _
    · exact Faultless.pure _
  unfold parseFruField
  split
  · exact Faultless.pure _
  refine Faultless.bind hdecode fun decodedText t => ?_
  split
  · obtain ⟨ret, hret⟩ := parseGeneralField_ret fieldType fieldData decodedText t
    rw [hret]
    exact fun h => by cases h
  split
  · obtain ⟨ret, hret⟩ := parseOemField_ret fieldType fieldData t
    rw [hret]
    exact fun h => by cases h
  · exact fun h => by cases h

/-- A turn over fields does not read outside the data. -/
theorem faultless_fieldTurn (i offset : Nat) :
    Faultless (fieldTurn fuel fruData recordType encodingType i offset) := by
  cases htake : takeField (fruData.drop offset) with
  | none =>
    rw [fieldTurn_of_none i htake]
    exact Faultless.pure _
  | some field =>
    obtain ⟨f, rest⟩ := field
    rw [(fieldTurn_of_some i htake).1]
    exact Faultless.bind (faultless_parseFruField _ _ _ _ _) fun _ => Faultless.pure _

/-- A turn over record sets does not either. -/
theorem faultless_recordSetTurn (offset : Nat) : Faultless (recordSetTurn fuel fruData offset) := by
  by_cases hpad : (fruData.drop offset).length < 5
  · rw [recordSetTurn_pad hpad]
    exact Faultless.pure _
  · obtain ⟨id, id', recordType, number, encodingType, rest, hbs⟩ := exists_header hpad
    rw [(recordSetTurn_of_header hbs).1]
    refine Faultless.bind (Faultless.forEach faultless_fieldTurn _ _) fun ret => ?_
    cases ret <;> exact Faultless.pure _

/-- The offset moves on with each field, and stays inside the data. -/
theorem fieldTurn_advances {i offset' : Nat} {t t' : FruTable}
    (h : fieldTurn fuel fruData recordType encodingType i offset t = (.ret (.inr offset'), t')) :
    offset + 2 ≤ offset' ∧ offset' ≤ fruData.length := by
  cases htake : takeField (fruData.drop offset) with
  | none =>
    rw [fieldTurn_of_none i htake] at h
    simp at h
  | some field =>
    obtain ⟨f, rest⟩ := field
    obtain ⟨hturn, -, hle⟩ :=
      @fieldTurn_of_some fuel offset fruData rest recordType encodingType i f htake
    rw [hturn] at h
    obtain ⟨ret, u, -, hpure⟩ := Prog.bind_eq_ret_iff.mp h
    obtain ⟨hoffset, -⟩ := pure_eq_ret_iff.mp hpure
    obtain rfl := Sum.inr.inj hoffset
    have hencode : f.encode.length = f.fieldData.length + 2 := rfl
    exact ⟨by omega, hle⟩

/-- The offset moves on with each header and the fields behind it, and stays inside the data. -/
theorem recordSetTurn_advances {offset' : Nat} {t t' : FruTable}
    (h : recordSetTurn fuel fruData offset t = (.ret (.inl offset'), t')) :
    offset + 5 ≤ offset' ∧ offset' ≤ fruData.length := by
  by_cases hpad : (fruData.drop offset).length < 5
  · rw [recordSetTurn_pad hpad] at h
    simp at h
  · rw [List.length_drop] at hpad
    have hheader : ¬(fruData.drop offset).length < 5 := by rwa [List.length_drop]
    obtain ⟨id, id', recordType, number, encodingType, rest, hbs⟩ := exists_header hheader
    rw [(recordSetTurn_of_header hbs).1] at h
    obtain ⟨ret, u, hfields, hleave⟩ := Prog.bind_eq_ret_iff.mp h
    cases ret with
    | inl ret => simp at hleave
    | inr o =>
      obtain ⟨ho, -⟩ := pure_eq_ret_iff.mp hleave
      obtain rfl := Sum.inl.inj ho
      refine Prog.forEach_ret_induct (P := fun o => offset + 5 ≤ o ∧ o ≤ fruData.length) ?_ hfields
        ⟨Nat.le_refl _, by omega⟩
      intro i o s o' s' ho hturn
      have hnext := fieldTurn_advances hturn
      exact ⟨by omega, hnext.2⟩

/-! ## Reads, offsets and status -/

/-- **The parser on any bytes.** It reads inside the data only; its offset moves on by at least a
header with each record and by at least two bytes with each field, and stays inside the data; it ends
if every field decodes, and where it ends it reports success exactly if the data is a table and not
empty. -/
theorem parseFruTableAt_reads_inside (fruData : Bytes) :
    (∀ fuel t, (parseFruTableAt fuel fruData t).1 ≠ .fault) ∧
    (∀ fuel recordType encodingType i offset offset' t t',
      fieldTurn fuel fruData recordType encodingType i offset t = (.ret (.inr offset'), t') →
        offset + 2 ≤ offset' ∧ offset' ≤ fruData.length) ∧
    (∀ fuel offset offset' t t', recordSetTurn fuel fruData offset t = (.ret (.inl offset'), t') →
      offset + 5 ≤ offset' ∧ offset' ≤ fruData.length) ∧
    (AllDecodable (tableEntries fruData) →
      ∀ t, ∃ fuel ret t', parseFruTableAt fuel fruData t = (.ret ret, t')) ∧
    ∀ fuel t ret t', parseFruTableAt fuel fruData t = (.ret ret, t') →
      (ret = pldmSuccess ↔ fruData ≠ [] ∧ IsTable fruData) := by
  refine ⟨fun fuel => ?_, fun _ _ _ _ _ _ _ _ => fieldTurn_advances,
    fun _ _ _ _ _ => recordSetTurn_advances, fun hall t => ?_, fun fuel t ret t' h => ?_⟩
  · unfold parseFruTableAt
    split
    · exact Faultless.pure _
    · exact Faultless.bind (Faultless.modify _) fun _ =>
        Faultless.loop (fun offset => faultless_recordSetTurn offset) _ _
  · by_cases hne : fruData = []
    · exact ⟨0, pldmError, t, by rw [parseFruTableAt, if_pos hne]; rfl⟩
    · obtain ⟨fuel, hrun⟩ := parseFruTable_split hne t hall
      exact ⟨fuel, _, _, (congrFun (parseFruTableAt_eq fuel fruData) t).trans hrun⟩
  · rw [parseFruTableAt_eq] at h
    by_cases hne : fruData = []
    · rw [parseFruTable, if_pos hne] at h
      obtain ⟨rfl, -⟩ := pure_eq_ret_iff.mp h
      exact iff_of_false (by decide) fun htable => htable.1 hne
    · obtain ⟨-, rfl, -⟩ := parseFruTable_split_ret hne h
      rw [splitTable_success_iff (Nat.le_refl _)]
      exact (and_iff_right hne).symm

/-- No bytes at all are a table without records, which is refused. -/
theorem parseFruTableAt_empty : IsTable [] ∧
    ¬∃ fuel t, parseFruTableAt fuel [] FruTable.cleared = (.ret pldmSuccess, t) := by
  refine ⟨⟨[], [], by decide, rfl⟩, ?_⟩
  rintro ⟨fuel, t, h⟩
  rw [parseFruTableAt, if_pos rfl] at h
  exact absurd (pure_eq_ret_iff.mp h).1 (by decide)

end XpuManager
