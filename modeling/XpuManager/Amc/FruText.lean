import Mathlib.Data.List.Induction
import Mathlib.Data.List.TakeWhile
import XpuManager.Amc.FruTable

/-! # The texts of a FRU table

What `parseFruTable` leaves of the texts of a well-formed table. The copy length of a text is its
own length, but `snprintf` counts the terminator in, so the last character is lost. -/

namespace XpuManager

open Prog

variable {fuel : Nat} {encodingType recordType : UInt8} {t t' : FruTable}

/-! ## Stored texts -/

/-- The C string in an array. -/
def storedText {n : Nat} (b : Buf n) : Bytes := cString (b.slice 0 n)

/-- A text in a general field: ASCII without NUL, and it fits with its terminator. -/
structure TextWellFormed (text : Bytes) : Prop where
  pos : 0 < text.length
  length_le : text.length ≤ 254
  ascii : ∀ c ∈ text, 0 < c ∧ c < 128

/-- The C string ends at the first NUL. -/
theorem cString_append_zero {bs rest : Bytes} (h : ∀ c ∈ bs, c ≠ 0) :
    cString (bs ++ 0 :: rest) = bs := by
  rw [cString, List.takeWhile_append_of_pos (by simpa using h), List.takeWhile_cons_of_neg (by simp),
    List.append_nil]

/-- **The last character is lost.** -/
theorem storedText_storeText {dest : Buf fruDataMaxLength} {text : Bytes}
    (h : TextWellFormed text) : storedText (storeText dest text) = text.dropLast := by
  obtain ⟨hpos, hle, hascii⟩ := h
  have hne : ∀ c ∈ text, c ≠ 0 := fun c hc => (UInt8.ne_of_lt (hascii c hc).1).symm
  have hmax : fruDataMaxLength = 255 := rfl
  have hsafe : safeLength text = text.length := by
    rw [safeLength]
    split <;> omega
  have hcopied : (cString text).take (text.length - 1) ++ [0] = text.dropLast ++ [0] := by
    have hall : cString text = text := List.takeWhile_eq_self_iff.mpr (by simpa using hne)
    rw [hall, List.dropLast_eq_take]
  have hlen : (text.dropLast ++ [0]).length = text.length := by
    rw [List.length_append, List.length_dropLast, List.length_singleton]
    omega
  -- the terminator behind the copy does not touch it
  have hslice : (storeText dest text).slice 0 text.length = text.dropLast ++ [0] := by
    rw [storeText, hsafe, strncpyS, if_neg (by omega), hcopied]
    rw [Buf.slice_congr (c := dest.overlay 0 (text.dropLast ++ [0])) fun k hk =>
      Buf.byte_setByte_of_ne (by omega)]
    conv_lhs => rw [← hlen]
    exact Buf.slice_overlay (by omega)
  have hsplit := (storeText dest text).slice_add 0 text.length (fruDataMaxLength - text.length)
  rw [Nat.add_sub_cancel' (by omega), hslice, List.append_assoc] at hsplit
  rw [storedText, hsplit]
  exact cString_append_zero fun c hc => hne c ((List.dropLast_sublist text).subset hc)

/-! ## Decoding -/

/-- The characters of UTF-16 text; an odd byte at the end is none. -/
def utf16Text : Bytes → Bytes
  | low :: high :: rest => utf16Char low high :: utf16Text rest
  | _ => []

/-- The text that the data of a field stands for. -/
def fieldText (encodingType : UInt8) (fieldData : Bytes) : Bytes :=
  if encodingType = fruRecordEncodingTypeUtf16 then utf16Text fieldData else fieldData

/-- The loop over the field's text has no end. -/
def Endless (encodingType : UInt8) (fieldData : Bytes) : Prop :=
  encodingType = fruRecordEncodingTypeUtf16 ∧ fieldData.length = 255

/-- The characters of a field are those of its first two bytes, and those of the rest. -/
theorem utf16Text_take_drop (bs : Bytes) :
    utf16Text bs = utf16Text (bs.take 2) ++ utf16Text (bs.drop 2) := by
  match bs with
  | [] => rfl
  | [_] => rfl
  | _ :: _ :: _ => rfl

/-- **One turn inside the field** moves on by two bytes and takes up their character, if both are
there. -/
theorem utf16Turn_next {fieldData : Bytes} {i : UInt8} (hend : i.toNat < fieldData.length)
    (acc : Bytes) : utf16Turn fieldData (i, acc) t =
      (.ret (.inl (i + 2, acc ++ utf16Text ((fieldData.drop i.toNat).take 2))), t) := by
  by_cases hpair : i.toNat + 1 < fieldData.length
  · have htwo : (fieldData.drop i.toNat).take 2 = [fieldData[i.toNat], fieldData[i.toNat + 1]] := by
      rw [List.drop_eq_getElem_cons hend, List.drop_eq_getElem_cons hpair]
      rfl
    rw [htwo]
    simp [utf16Turn, hend, hpair, utf16Text]
  · have hone : (fieldData.drop i.toNat).take 2 = [fieldData[i.toNat]] := by
      rw [List.drop_eq_getElem_cons hend, List.drop_eq_nil_of_le (Nat.le_of_not_lt hpair)]
      rfl
    rw [hone]
    simp [utf16Turn, hend, hpair, utf16Text]

/-- From an even position on the loop decodes the rest of the data. -/
theorem loop_utf16Turn {fieldData : Bytes} (hlen : fieldData.length < 255) {k : Nat} {i : UInt8}
    (heven : i.toNat % 2 = 0) (hi : i.toNat ≤ fieldData.length + 1) (acc : Bytes)
    (hk : fieldData.length + 1 < i.toNat + 2 * k) :
    Prog.loop (utf16Turn fieldData) k (i, acc) t =
      (.ret (acc ++ utf16Text (fieldData.drop i.toNat)), t) := by
  induction k generalizing i acc with
  | zero => omega
  | succ k ih =>
    by_cases hend : i.toNat < fieldData.length
    · have hnext : (i + 2).toNat = i.toNat + 2 := by
        rw [UInt8.toNat_add]
        exact Nat.mod_eq_of_lt (by simp only [UInt8.reduceToNat]; omega)
      rw [Prog.loop_succ_of_turn (utf16Turn_next hend acc), ih (by omega) (by omega) _ (by omega),
        hnext, utf16Text_take_drop (fieldData.drop i.toNat), List.drop_drop, List.append_assoc]
    · have hturn : utf16Turn fieldData (i, acc) t = (.ret (.inr acc), t) := by
        simp [utf16Turn, hend]
      rw [Prog.loop_succ_of_leave hturn, List.drop_eq_nil_of_le (by omega),
        show utf16Text [] = [] from rfl, List.append_nil]

/-- With 255 bytes the index never gets past the end. -/
theorem loop_utf16Turn_endless {fieldData : Bytes} (hlen : fieldData.length = 255) {k : Nat}
    {i : UInt8} (heven : i.toNat % 2 = 0) (acc : Bytes) :
    Prog.loop (utf16Turn fieldData) k (i, acc) t = (.cut, t) := by
  induction k generalizing i acc with
  | zero => rfl
  | succ k ih =>
    have hlt := i.toNat_lt
    have heven' : (i + 2).toNat % 2 = 0 := by
      rw [UInt8.toNat_add]
      simp only [UInt8.reduceToNat]
      omega
    rw [Prog.loop_succ_of_turn (utf16Turn_next (by omega) acc)]
    exact ih heven' _

/-- The fuel that decodes every text. -/
abbrev decodeFuel : Nat := 129

theorem decodeText_run {fieldData : Bytes} (hlen : fieldData.length ≤ 255)
    (hend : ¬Endless encodingType fieldData) (hfuel : decodeFuel ≤ fuel) :
    decodeText fuel encodingType fieldData t = (.ret (fieldText encodingType fieldData), t) := by
  rw [decodeText, fieldText]
  split
  case isTrue henc =>
    have hlt : fieldData.length < 255 := Nat.lt_of_le_of_ne hlen fun h => hend ⟨henc, h⟩
    have henough : 129 ≤ fuel := hfuel
    exact loop_utf16Turn hlt rfl (Nat.zero_le _) [] (by simp only [UInt8.reduceToNat]; omega)
  case isFalse => rfl

/-- A run that returns has the text of the field, and was not endless. -/
theorem decodeText_ret {fieldData decodedText : Bytes} (hlen : fieldData.length ≤ 255)
    (h : decodeText fuel encodingType fieldData t = (.ret decodedText, t')) :
    ¬Endless encodingType fieldData ∧ decodedText = fieldText encodingType fieldData ∧ t' = t := by
  by_cases hend : Endless encodingType fieldData
  · rw [decodeText, if_pos hend.1, loop_utf16Turn_endless hend.2 rfl] at h
    cases h
  · refine ⟨hend, ?_⟩
    have hmore : decodeText (fuel + decodeFuel) encodingType fieldData t = (.ret decodedText, t') := by
      rw [decodeText] at h ⊢
      split
      case isTrue henc =>
        rw [if_pos henc] at h
        rw [Prog.loop_add_of_ne_cut (fun _ hcut => by rw [h] at hcut; cases hcut), h]
      case isFalse henc => rwa [if_neg henc] at h
    rw [decodeText_run hlen hend (Nat.le_add_left _ _)] at hmore
    obtain ⟨htext, rfl⟩ := Prod.mk.inj hmore
    exact ⟨(Outcome.ret.inj htext).symm, rfl⟩

/-! ## Tables -/

/-- A field of a record. -/
structure FruField where
  fieldType : UInt8
  fieldData : Bytes
  fieldLength_le : fieldData.length ≤ 255

/-- A record set with its fields. -/
structure FruRecord where
  recordSetIdentifier : UInt16
  recordType : UInt8
  encodingType : UInt8
  fields : List FruField
  numberOfFruFields_le : fields.length ≤ 255

/-- A field together with what its record says about it. -/
structure FruEntry where
  recordType : UInt8
  encodingType : UInt8
  field : FruField

/-- A field as it lies in the table: type, length and data. -/
def FruField.encode (f : FruField) : Bytes :=
  f.fieldType :: UInt8.ofNat f.fieldData.length :: f.fieldData

/-- A record set as it lies in the table. -/
def FruRecord.encode (r : FruRecord) : Bytes :=
  leBytes 2 r.recordSetIdentifier.toNat ++
    r.recordType :: UInt8.ofNat r.fields.length :: r.encodingType :: r.fields.flatMap FruField.encode

/-- What the parser is to store of a record set. -/
def FruRecord.entries (r : FruRecord) : List FruEntry :=
  r.fields.map fun f => ⟨r.recordType, r.encodingType, f⟩

/-- The text of a general field of a type. -/
def FruEntry.text (fieldType : UInt8) (e : FruEntry) : Option Bytes :=
  if e.recordType = fruRecordTypeGeneral ∧ e.field.fieldType = fieldType then
    some (fieldText e.encodingType e.field.fieldData)
  else none

/-- The texts of the general fields of a type, in order. -/
def generalTexts (es : List FruEntry) (fieldType : UInt8) : List Bytes :=
  es.filterMap (FruEntry.text fieldType)

/-- The types of the general text fields. -/
def textFieldTypes : List UInt8 :=
  GeneralText.all.map GeneralText.fieldType ++ [fruGeneralFieldTypeOtherInformation]

/-- A well-formed table; fewer bytes than a header may follow the records. -/
structure FruTableData where
  records : List FruRecord
  pad : Bytes
  pad_lt : pad.length < 5
  text_wellFormed : ∀ fieldType ∈ textFieldTypes,
    ∀ text ∈ generalTexts (records.flatMap FruRecord.entries) fieldType, TextWellFormed text

namespace FruTableData

variable (d : FruTableData)

/-- What the parser is to store of all record sets. -/
def entries : List FruEntry := d.records.flatMap FruRecord.entries

/-- The record sets one after the other, and the padding. -/
def encode : Bytes := d.records.flatMap FruRecord.encode ++ d.pad

end FruTableData

/-! ## What the fields store -/

/-- `mFruTable` after a field. -/
def FruTable.afterField (t : FruTable) (e : FruEntry) : FruTable :=
  let fieldData := e.field.fieldData
  if fieldData = [] then t
  else if e.recordType = fruRecordTypeGeneral then
    (parseGeneralField e.field.fieldType fieldData (fieldText e.encodingType fieldData) t).2
  else if e.recordType = fruRecordTypeOem then (parseOemField e.field.fieldType fieldData t).2
  else t

/-- `mFruTable` after some fields. -/
def FruTable.afterFields (t : FruTable) (es : List FruEntry) : FruTable :=
  es.foldl FruTable.afterField t

theorem parseGeneralField_ret (fieldType : UInt8) (fieldData decodedText : Bytes) (t : FruTable) :
    ∃ ret, parseGeneralField fieldType fieldData decodedText t =
      (.ret ret, (parseGeneralField fieldType fieldData decodedText t).2) := by
  unfold parseGeneralField
  cases GeneralText.ofFieldType fieldType with
  | some τ => exact ⟨_, rfl⟩
  | none =>
    dsimp only
    split_ifs <;> exact ⟨_, rfl⟩

theorem parseOemField_ret (fieldType : UInt8) (fieldData : Bytes) (t : FruTable) :
    ∃ ret, parseOemField fieldType fieldData t =
      (.ret ret, (parseOemField fieldType fieldData t).2) := by
  rw [parseOemField]
  split_ifs <;> exact ⟨_, rfl⟩

/-- Behind the decoding a field stores what it is to store. -/
theorem parseFruField_run (e : FruEntry) (hend : ¬Endless e.encodingType e.field.fieldData)
    (hfuel : decodeFuel ≤ fuel) (t : FruTable) : ∃ ret,
      parseFruField fuel e.field.fieldData e.field.fieldType e.recordType e.encodingType t =
        (.ret ret, t.afterField e) := by
  rw [parseFruField, FruTable.afterField]
  split_ifs
  · exact ⟨_, rfl⟩
  all_goals rw [Prog.bind_of_ret (decodeText_run e.field.fieldLength_le hend hfuel)]
  · exact parseGeneralField_ret _ _ _ _
  · exact parseOemField_ret _ _ _
  · exact ⟨_, rfl⟩

/-- A field that returns has been decoded, and has stored what it is to store. -/
theorem parseFruField_ret (e : FruEntry) {ret : UInt8}
    (h : parseFruField fuel e.field.fieldData e.field.fieldType e.recordType e.encodingType t =
      (.ret ret, t')) :
    ¬Endless e.encodingType e.field.fieldData ∧ t' = t.afterField e := by
  rw [parseFruField] at h
  rw [FruTable.afterField]
  split_ifs at h ⊢ with hnil hgeneral hoem
  · obtain ⟨-, rfl⟩ := Prod.mk.inj h
    exact ⟨fun hend => by rw [Endless, hnil] at hend; exact absurd hend.2 (by decide), rfl⟩
  all_goals
    obtain ⟨text, u, htext, hstore⟩ := Prog.bind_eq_ret_iff.mp h
    obtain ⟨hend, rfl, rfl⟩ := decodeText_ret e.field.fieldLength_le htext
    refine ⟨hend, ?_⟩
  · obtain ⟨ret', hret⟩ := parseGeneralField_ret e.field.fieldType e.field.fieldData
      (fieldText e.encodingType e.field.fieldData) u
    exact (Prod.mk.inj (hstore.symm.trans hret)).2
  · obtain ⟨ret', hret⟩ := parseOemField_ret e.field.fieldType e.field.fieldData u
    exact (Prod.mk.inj (hstore.symm.trans hret)).2
  · exact (Prod.mk.inj hstore).2.symm

/-! ## Runs of the parser -/

/-- No text of the fields keeps its loop from ending. -/
def AllDecodable (es : List FruEntry) : Prop :=
  ∀ e ∈ es, ¬Endless e.encodingType e.field.fieldData

/-- The turn of the loop over fields at an encoded field. -/
theorem parseFields_encode (f : FruField) (n : Nat) (rest : Bytes) :
    parseFields fuel recordType encodingType (n + 1) (f.encode ++ rest) =
      parseFruField fuel f.fieldData f.fieldType recordType encodingType >>= fun _ =>
        parseFields fuel recordType encodingType n rest := by
  have hlen : (UInt8.ofNat f.fieldData.length).toNat = f.fieldData.length :=
    UInt8.toNat_ofNat_of_lt' (Nat.lt_succ_of_le f.fieldLength_le)
  rw [FruField.encode, List.cons_append, List.cons_append, parseFields, hlen,
    if_neg (by rw [List.length_append]; omega), List.take_left, List.drop_left]

theorem parseFields_run {fields : List FruField} {rest : Bytes} (hfuel : decodeFuel ≤ fuel)
    (h : AllDecodable (fields.map fun f => ⟨recordType, encodingType, f⟩)) (t : FruTable) :
    parseFields fuel recordType encodingType fields.length (fields.flatMap FruField.encode ++ rest) t =
      (.ret (some rest),
        t.afterFields (fields.map fun f => ⟨recordType, encodingType, f⟩)) := by
  induction fields generalizing t with
  | nil => rfl
  | cons f fields ih =>
    obtain ⟨ret, hret⟩ := parseFruField_run ⟨recordType, encodingType, f⟩
      (h _ List.mem_cons_self) hfuel t
    rw [List.flatMap_cons, List.append_assoc, List.length_cons, parseFields_encode,
      Prog.bind_of_ret hret]
    exact ih (fun e he => h e (List.mem_cons_of_mem _ he)) _

/-- Encoded fields are read back one by one, and the rest is left over. -/
theorem parseFields_ret {fields : List FruField} {rest : Bytes} {o : Option Bytes}
    (h : parseFields fuel recordType encodingType fields.length
      (fields.flatMap FruField.encode ++ rest) t = (.ret o, t')) :
    AllDecodable (fields.map fun f => ⟨recordType, encodingType, f⟩) ∧ o = some rest ∧
      t' = t.afterFields (fields.map fun f => ⟨recordType, encodingType, f⟩) := by
  induction fields generalizing t with
  | nil =>
    obtain ⟨ho, rfl⟩ := Prod.mk.inj h
    exact ⟨fun e he => absurd he List.not_mem_nil, (Outcome.ret.inj ho).symm, rfl⟩
  | cons f fields ih =>
    rw [List.flatMap_cons, List.append_assoc, List.length_cons, parseFields_encode] at h
    obtain ⟨ret, u, hfield, h⟩ := Prog.bind_eq_ret_iff.mp h
    obtain ⟨hend, rfl⟩ := parseFruField_ret ⟨recordType, encodingType, f⟩ hfield
    obtain ⟨hrest, rfl, rfl⟩ := ih h
    refine ⟨fun e he => ?_, rfl, rfl⟩
    rcases List.mem_cons.mp he with rfl | he
    · exact hend
    · exact hrest e he

/-- The turn of the loop over record sets at an encoded record. -/
theorem parseRecordSet_run {r : FruRecord} (hfuel : decodeFuel ≤ fuel) (h : AllDecodable r.entries)
    (rest : Bytes) (t : FruTable) : parseRecordSet fuel (r.encode ++ rest) t =
      (.ret (.inl rest), t.afterFields r.entries) := by
  have hlen : (UInt8.ofNat r.fields.length).toNat = r.fields.length :=
    UInt8.toNat_ofNat_of_lt' (Nat.lt_succ_of_le r.numberOfFruFields_le)
  rw [FruRecord.encode, leBytes, leBytes, leBytes]
  simp only [List.cons_append, List.nil_append, parseRecordSet, hlen]
  rw [Prog.bind_of_ret (parseFields_run hfuel h t)]
  rfl

/-- A record set is read back. -/
theorem parseRecordSet_ret {r : FruRecord} {rest : Bytes} {o : Bytes ⊕ UInt8}
    (h : parseRecordSet fuel (r.encode ++ rest) t = (.ret o, t')) :
    AllDecodable r.entries ∧ o = .inl rest ∧ t' = t.afterFields r.entries := by
  have hlen : (UInt8.ofNat r.fields.length).toNat = r.fields.length :=
    UInt8.toNat_ofNat_of_lt' (Nat.lt_succ_of_le r.numberOfFruFields_le)
  rw [FruRecord.encode, leBytes, leBytes, leBytes] at h
  simp only [List.cons_append, List.nil_append, parseRecordSet, hlen] at h
  obtain ⟨left, u, hfields, hleave⟩ := Prog.bind_eq_ret_iff.mp h
  obtain ⟨hall, rfl, rfl⟩ := parseFields_ret hfields
  obtain ⟨ho, rfl⟩ := Prod.mk.inj hleave
  exact ⟨hall, (Outcome.ret.inj ho).symm, rfl⟩

/-- Less than a header ends the table. -/
theorem parseRecordSet_pad {pad : Bytes} (h : pad.length < 5) :
    parseRecordSet fuel pad = pure (.inr pldmSuccess) := by
  rw [parseRecordSet]
  intro a b c e f rest hpad
  rw [hpad] at h
  simp at h
  omega

theorem afterFields_append (t : FruTable) (es es' : List FruEntry) :
    t.afterFields (es ++ es') = (t.afterFields es).afterFields es' := List.foldl_append

theorem allDecodable_append {es es' : List FruEntry} :
    AllDecodable (es ++ es') ↔ AllDecodable es ∧ AllDecodable es' := List.forall_mem_append

/-- **A run on a well-formed table** stores what its fields are to store. -/
theorem loop_parseRecordSet {records : List FruRecord} {pad : Bytes} (hpad : pad.length < 5)
    (hfuel : decodeFuel ≤ fuel) (h : AllDecodable (records.flatMap FruRecord.entries)) (k : Nat)
    (t : FruTable) : Prog.loop (parseRecordSet fuel) (records.length + 1 + k)
        (records.flatMap FruRecord.encode ++ pad) t =
      (.ret pldmSuccess, t.afterFields (records.flatMap FruRecord.entries)) := by
  induction records generalizing t with
  | nil =>
    rw [List.length_nil, Nat.zero_add, Nat.add_comm]
    refine Prog.loop_succ_of_leave ?_
    rw [List.flatMap_nil, List.nil_append, parseRecordSet_pad hpad]
    rfl
  | cons r records ih =>
    rw [List.flatMap_cons, allDecodable_append] at h
    rw [List.length_cons, Nat.add_right_comm, List.flatMap_cons, List.append_assoc,
      Prog.loop_succ_of_turn (parseRecordSet_run hfuel h.1 _ t), ih h.2, List.flatMap_cons,
      afterFields_append]

/-- A run that returns has decoded every text, and stored what the fields are to store. -/
theorem loop_parseRecordSet_ret {records : List FruRecord} {pad : Bytes} (hpad : pad.length < 5)
    {k : Nat} {ret : UInt8} (h : Prog.loop (parseRecordSet fuel) k
      (records.flatMap FruRecord.encode ++ pad) t = (.ret ret, t')) :
    AllDecodable (records.flatMap FruRecord.entries) ∧
      t' = t.afterFields (records.flatMap FruRecord.entries) := by
  induction records generalizing t k with
  | nil =>
    refine ⟨fun e he => absurd he List.not_mem_nil, ?_⟩
    cases k with
    | zero => cases h
    | succ k =>
      rw [List.flatMap_nil, List.nil_append,
        Prog.loop_succ_of_leave (by rw [parseRecordSet_pad hpad]; rfl)] at h
      exact (Prod.mk.inj h).2.symm
  | cons r records ih =>
    cases k with
    | zero => cases h
    | succ k =>
      rw [List.flatMap_cons, List.append_assoc] at h
      obtain ⟨o, u, hrecord, hrest⟩ := Prog.bind_eq_ret_iff.mp h
      obtain ⟨hall, rfl, rfl⟩ := parseRecordSet_ret hrecord
      obtain ⟨halls, rfl⟩ := ih hrest
      rw [List.flatMap_cons, allDecodable_append, afterFields_append]
      exact ⟨⟨hall, halls⟩, rfl⟩

/-! ## Where the texts end up -/

theorem fieldText_nil (encodingType : UInt8) : fieldText encodingType [] = [] := by
  rw [fieldText]
  split <;> rfl

theorem fieldData_ne_nil {e : FruEntry} {fieldType : UInt8} {text : Bytes}
    (h : e.text fieldType = some text) (hpos : 0 < text.length) : e.field.fieldData ≠ [] := by
  intro hnil
  rw [FruEntry.text] at h
  split at h
  case isTrue =>
    obtain rfl := Option.some_inj.mp h
    rw [hnil, fieldText_nil] at hpos
    cases hpos
  case isFalse => cases h

/-- A general text goes to its field. -/
theorem afterField_of_text {e : FruEntry} {τ : GeneralText} {text : Bytes}
    (h : e.text τ.fieldType = some text) (hpos : 0 < text.length) (t : FruTable) :
    t.afterField e = t.setText τ text := by
  have hne := fieldData_ne_nil h hpos
  rw [FruEntry.text] at h
  split at h
  case isTrue hentry =>
    obtain rfl := Option.some_inj.mp h
    rw [FruTable.afterField, if_neg hne, if_pos hentry.1, parseGeneralField,
      GeneralText.ofFieldType_eq_some_iff.mpr hentry.2]
    rfl
  case isFalse => cases h

/-- Other information goes to the next entry. -/
theorem afterField_of_otherInfo {e : FruEntry} {text : Bytes}
    (h : e.text fruGeneralFieldTypeOtherInformation = some text) (hpos : 0 < text.length)
    (t : FruTable) : t.afterField e = t.addOtherInfo text := by
  have hne := fieldData_ne_nil h hpos
  rw [FruEntry.text] at h
  split at h
  case isTrue hentry =>
    obtain rfl := Option.some_inj.mp h
    have hnone : GeneralText.ofFieldType fruGeneralFieldTypeOtherInformation = none := by decide
    rw [FruTable.afterField, if_neg hne, if_pos hentry.1, hentry.2, parseGeneralField, hnone]
    rfl
  case isFalse => cases h

/-- An OEM field leaves the general texts alone. -/
theorem parseOemField_frame (fieldType : UInt8) (fieldData : Bytes) (t : FruTable) :
    (parseOemField fieldType fieldData t).2.text = t.text ∧
      (parseOemField fieldType fieldData t).2.genOtherInfo = t.genOtherInfo ∧
      (parseOemField fieldType fieldData t).2.genOtherInfoCount = t.genOtherInfoCount := by
  rw [parseOemField]
  split_ifs <;> exact ⟨rfl, rfl, rfl⟩

/-- A general field of another type leaves a text alone. -/
theorem parseGeneralField_text {fieldType : UInt8} {τ : GeneralText} (h : fieldType ≠ τ.fieldType)
    (fieldData decodedText : Bytes) (t : FruTable) :
    (parseGeneralField fieldType fieldData decodedText t).2.text τ = t.text τ := by
  unfold parseGeneralField
  cases hτ : GeneralText.ofFieldType fieldType with
  | some τ' =>
    have hne : τ ≠ τ' := fun heq => h (heq ▸ GeneralText.ofFieldType_eq_some_iff.mp hτ)
    exact if_neg hne
  | none =>
    dsimp only
    split_ifs
    · rfl
    · change (t.addOtherInfo decodedText).text τ = t.text τ
      rw [FruTable.addOtherInfo]
      split <;> rfl
    · rfl
    · rfl

/-- A general field that is no other information leaves the other information alone. -/
theorem parseGeneralField_otherInfo {fieldType : UInt8}
    (h : fieldType ≠ fruGeneralFieldTypeOtherInformation) (fieldData decodedText : Bytes)
    (t : FruTable) :
    (parseGeneralField fieldType fieldData decodedText t).2.genOtherInfo = t.genOtherInfo ∧
      (parseGeneralField fieldType fieldData decodedText t).2.genOtherInfoCount =
        t.genOtherInfoCount := by
  unfold parseGeneralField
  cases GeneralText.ofFieldType fieldType with
  | some τ => exact ⟨rfl, rfl⟩
  | none =>
    dsimp only
    split_ifs <;> exact ⟨rfl, rfl⟩

/-- A field of another type leaves a text alone. -/
theorem afterField_text_of_none {e : FruEntry} {τ : GeneralText} (h : e.text τ.fieldType = none)
    (t : FruTable) : (t.afterField e).text τ = t.text τ := by
  rw [FruEntry.text] at h
  split at h
  case isTrue => cases h
  case isFalse hentry =>
    rw [FruTable.afterField]
    split_ifs with hnil hgeneral hoem
    · rfl
    · exact parseGeneralField_text (fun htype => hentry ⟨hgeneral, htype⟩) _ _ t
    · rw [(parseOemField_frame _ _ t).1]
    · rfl

theorem afterField_otherInfo_of_none {e : FruEntry}
    (h : e.text fruGeneralFieldTypeOtherInformation = none) (t : FruTable) :
    (t.afterField e).genOtherInfo = t.genOtherInfo ∧
      (t.afterField e).genOtherInfoCount = t.genOtherInfoCount := by
  rw [FruEntry.text] at h
  split at h
  case isTrue => cases h
  case isFalse hentry =>
    rw [FruTable.afterField]
    split_ifs with hnil hgeneral hoem
    · exact ⟨rfl, rfl⟩
    · exact parseGeneralField_otherInfo (fun htype => hentry ⟨hgeneral, htype⟩) _ _ t
    · exact (parseOemField_frame _ _ t).2
    · exact ⟨rfl, rfl⟩

/-! ## The texts after the table -/

/-- The texts of a type after one more field. -/
theorem generalTexts_concat (es : List FruEntry) (e : FruEntry) (fieldType : UInt8) :
    generalTexts (es ++ [e]) fieldType = generalTexts es fieldType ++ (e.text fieldType).toList := by
  rw [generalTexts, List.filterMap_append, generalTexts]
  cases h : e.text fieldType <;> simp [h]

/-- **Each text field holds the last text of its type, but for its last character.** -/
theorem storedText_afterFields {es : List FruEntry} {τ : GeneralText}
    (hwf : ∀ text ∈ generalTexts es τ.fieldType, TextWellFormed text) (t : FruTable) {text : Bytes}
    (h : (generalTexts es τ.fieldType).getLast? = some text) :
    storedText ((t.afterFields es).text τ) = text.dropLast := by
  induction es using List.reverseRecOn generalizing text with
  | nil => cases h
  | append_singleton es e ih =>
    rw [generalTexts_concat] at h hwf
    rw [afterFields_append]
    change storedText (((t.afterFields es).afterField e).text τ) = _
    cases he : e.text τ.fieldType with
    | none =>
      rw [he, Option.toList_none, List.append_nil] at h hwf
      rw [afterField_text_of_none he]
      exact ih hwf h
    | some last =>
      rw [he, Option.toList_some] at h hwf
      obtain rfl : last = text := by simpa using h
      have hlast := hwf last (by simp)
      rw [afterField_of_text he hlast.pos]
      change storedText (if τ = τ then _ else _) = _
      rw [if_pos rfl, storedText_storeText hlast]

/-- The entries of other information hold the first ten texts, but for their last characters. -/
structure OtherInfoHolds (texts : List Bytes) (t : FruTable) : Prop where
  count_eq : t.genOtherInfoCount.toNat = min texts.length fruMaxOtherInfoRecords
  text_eq : ∀ (i : Fin fruMaxOtherInfoRecords) text, texts[i.val]? = some text →
    storedText (t.genOtherInfo i) = text.dropLast

/-- One more text is added, unless there are ten already. -/
theorem OtherInfoHolds.add {texts : List Bytes} {text : Bytes} (h : OtherInfoHolds texts t)
    (hwf : TextWellFormed text) : OtherInfoHolds (texts ++ [text]) (t.addOtherInfo text) := by
  obtain ⟨hcount, htext⟩ := h
  have hten : fruMaxOtherInfoRecords = 10 := rfl
  rw [FruTable.addOtherInfo]
  split
  case isTrue hroom =>
    have hnext : t.genOtherInfoCount.toNat = texts.length := by omega
    constructor
    · have hsucc : (t.genOtherInfoCount + 1).toNat = t.genOtherInfoCount.toNat + 1 := by
        rw [UInt8.toNat_add]
        exact Nat.mod_eq_of_lt (by simp only [UInt8.reduceToNat]; omega)
      rw [hsucc, List.length_append, List.length_singleton]
      omega
    · intro i text' htext'
      dsimp only
      split
      case isTrue hi =>
        have hlen : i.val = texts.length := (congrArg Fin.val hi).trans hnext
        rw [hlen, List.getElem?_concat_length] at htext'
        obtain rfl := Option.some_inj.mp htext'
        exact storedText_storeText hwf
      case isFalse hi =>
        have hne : i.val ≠ texts.length := fun h => hi (Fin.ext (h.trans hnext.symm))
        have hlt := (List.getElem?_eq_some_iff.mp htext').1
        rw [List.length_append, List.length_singleton] at hlt
        rw [List.getElem?_append_left (by omega)] at htext'
        exact htext i text' htext'
  case isFalse hfull =>
    have hlen : fruMaxOtherInfoRecords ≤ texts.length := by omega
    constructor
    · rw [hcount, List.length_append, List.length_singleton]
      omega
    · intro i text' htext'
      rw [List.getElem?_append_left (Nat.lt_of_lt_of_le i.isLt hlen)] at htext'
      exact htext i text' htext'

/-- The list of other information holds all its texts after the fields. -/
theorem otherInfoHolds_afterFields {es : List FruEntry}
    (hwf : ∀ text ∈ generalTexts es fruGeneralFieldTypeOtherInformation, TextWellFormed text)
    (hcount : t.genOtherInfoCount = 0) :
    OtherInfoHolds (generalTexts es fruGeneralFieldTypeOtherInformation) (t.afterFields es) := by
  induction es using List.reverseRecOn with
  | nil => exact ⟨by simp [FruTable.afterFields, hcount, generalTexts], fun i text h => by cases h⟩
  | append_singleton es e ih =>
    rw [generalTexts_concat] at hwf ⊢
    rw [afterFields_append]
    change OtherInfoHolds _ ((t.afterFields es).afterField e)
    cases he : e.text fruGeneralFieldTypeOtherInformation with
    | none =>
      rw [he, Option.toList_none, List.append_nil] at hwf
      obtain ⟨hinfo, hnumber⟩ := afterField_otherInfo_of_none he (t.afterFields es)
      obtain ⟨hcount', htext⟩ := ih hwf
      rw [Option.toList_none, List.append_nil]
      exact ⟨by rw [hnumber]; exact hcount', by rw [hinfo]; exact htext⟩
    | some text =>
      rw [he, Option.toList_some] at hwf
      have htext := hwf text (by simp)
      rw [afterField_of_otherInfo he htext.pos, Option.toList_some]
      exact (ih fun text' h => hwf text' (List.mem_append_left _ h)).add htext

/-! ## When the texts are stored as they are -/

/-- Each text field holds the last text of its type, and each entry of other information the text
at its place. -/
def FruTable.HoldsTexts (t : FruTable) (es : List FruEntry) : Prop :=
  (∀ (τ : GeneralText) text, (generalTexts es τ.fieldType).getLast? = some text →
    storedText (t.text τ) = text) ∧
  ∀ (i : Fin fruMaxOtherInfoRecords) text,
    (generalTexts es fruGeneralFieldTypeOtherInformation)[i.val]? = some text →
      storedText (t.genOtherInfo i) = text

/-- No text is itself without its last character. -/
theorem TextWellFormed.dropLast_ne {text : Bytes} (h : TextWellFormed text) :
    text.dropLast ≠ text := by
  intro heq
  have hlen := congrArg List.length heq
  have hpos := h.pos
  rw [List.length_dropLast] at hlen
  omega

theorem mem_textFieldTypes (τ : GeneralText) : τ.fieldType ∈ textFieldTypes :=
  List.mem_append_left _ (List.mem_map_of_mem (by cases τ <;> decide))

/-- A run of the parser on a well-formed table. -/
theorem parseFruTable_ret (d : FruTableData) {t₀ : FruTable} {ret : UInt8} (hne : d.encode ≠ [])
    (h : parseFruTable fuel d.encode t₀ = (.ret ret, t)) :
    AllDecodable d.entries ∧ t = FruTable.cleared.afterFields d.entries := by
  rw [parseFruTable, if_neg hne] at h
  exact loop_parseRecordSet_ret d.pad_lt h

/-- A run leaves what the fields store, one after the other. -/
theorem parseFruTable_run (d : FruTableData) (hall : AllDecodable d.entries) (t₀ : FruTable) :
    ∃ fuel ret t, parseFruTable fuel d.encode t₀ = (.ret ret, t) := by
  by_cases hne : d.encode = []
  · exact ⟨0, pldmError, t₀, by rw [parseFruTable, if_pos hne]; rfl⟩
  · refine ⟨d.records.length + 1 + decodeFuel, pldmSuccess,
      FruTable.cleared.afterFields d.entries, ?_⟩
    rw [parseFruTable, if_neg hne]
    exact loop_parseRecordSet d.pad_lt (Nat.le_add_left _ _) hall _ _

/-- An empty table has no fields. -/
theorem entries_of_encode_nil {d : FruTableData} (h : d.encode = []) : d.entries = [] := by
  have hrecords := (List.append_eq_nil_iff.mp h).1
  have hnone : d.records = [] := by
    cases hr : d.records with
    | nil => rfl
    | cons r records =>
      rw [hr, List.flatMap_cons, FruRecord.encode] at hrecords
      simp at hrecords
  rw [FruTableData.entries, hnone]
  rfl

/-- **When the texts of a table survive.** For every well-formed table: the parser returns and has
stored each text as it is, if and only if the table has no general text at all and no field of a
UTF-16 record has 255 bytes, on which the decoding has no end. -/
theorem parseFruTable_holdsTexts_iff (d : FruTableData) (t₀ : FruTable) :
    (∃ fuel ret t, parseFruTable fuel d.encode t₀ = (.ret ret, t) ∧ t.HoldsTexts d.entries) ↔
      (∀ fieldType ∈ textFieldTypes, generalTexts d.entries fieldType = []) ∧
        AllDecodable d.entries := by
  constructor
  · rintro ⟨fuel, ret, t, h, htexts, hinfo⟩
    by_cases hne : d.encode = []
    · rw [entries_of_encode_nil hne]
      exact ⟨fun _ _ => rfl, fun e he => absurd he List.not_mem_nil⟩
    · obtain ⟨hall, rfl⟩ := parseFruTable_ret d hne h
      refine ⟨fun fieldType hmem => ?_, hall⟩
      have hwf : ∀ text ∈ generalTexts d.entries fieldType, TextWellFormed text :=
        d.text_wellFormed fieldType hmem
      by_contra hsome
      rcases List.mem_append.mp hmem with hmem | hmem
      · obtain ⟨τ, -, rfl⟩ := List.mem_map.mp hmem
        obtain ⟨text, hlast⟩ := Option.isSome_iff_exists.mp
          (List.getLast?_isSome.mpr hsome)
        have hstored := storedText_afterFields hwf FruTable.cleared hlast
        rw [htexts τ text hlast] at hstored
        exact (hwf text (List.mem_of_getLast? hlast)).dropLast_ne hstored.symm
      · obtain rfl := List.mem_singleton.mp hmem
        have hpos := List.length_pos_of_ne_nil hsome
        have hfirst := List.getElem?_eq_getElem hpos
        have hstored := (@otherInfoHolds_afterFields FruTable.cleared d.entries hwf rfl).text_eq 0 _
          hfirst
        rw [hinfo 0 _ hfirst] at hstored
        exact (hwf _ (List.getElem_mem hpos)).dropLast_ne hstored.symm
  · rintro ⟨hnone, hall⟩
    obtain ⟨fuel, ret, t, h⟩ := parseFruTable_run d hall t₀
    refine ⟨fuel, ret, t, h, fun τ text hlast => ?_, fun i text hget => ?_⟩
    · rw [hnone _ (mem_textFieldTypes τ)] at hlast
      cases hlast
    · rw [hnone _ (List.mem_append_right _ List.mem_cons_self)] at hget
      cases hget

/-! ## A model name -/

theorem textWellFormed_B60 : TextWellFormed [66, 54, 48] := ⟨by decide, by decide, by simp⟩

/-- A table with one general record that says the model is `B60`. -/
def modelTable : FruTableData where
  records := [⟨1, fruRecordTypeGeneral, 0, [⟨0x02, [66, 54, 48], by decide⟩], by decide⟩]
  pad := []
  pad_lt := by decide
  text_wellFormed := by
    intro fieldType _ text htext
    obtain ⟨e, he, htext⟩ := List.mem_filterMap.mp htext
    obtain rfl := List.mem_singleton.mp he
    rw [FruEntry.text] at htext
    split at htext
    case isTrue =>
      obtain rfl := Option.some_inj.mp htext
      exact textWellFormed_B60
    case isFalse => cases htext

/-- **The model loses its last character.** `B60` is stored as `B6`. -/
theorem modelTable_not_held : ¬∃ fuel ret t,
    parseFruTable fuel modelTable.encode FruTable.cleared = (.ret ret, t) ∧
      t.HoldsTexts modelTable.entries := by
  rintro ⟨fuel, ret, t, h, htexts, -⟩
  obtain ⟨-, rfl⟩ := parseFruTable_ret modelTable (by decide) h
  have hlast : (generalTexts modelTable.entries GeneralText.model.fieldType).getLast? =
      some [66, 54, 48] := by decide
  have hstored := storedText_afterFields
    (modelTable.text_wellFormed _ (mem_textFieldTypes .model)) FruTable.cleared hlast
  exact absurd ((htexts .model _ hlast).symm.trans hstored) (by decide)

end XpuManager
