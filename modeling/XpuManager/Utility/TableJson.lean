import XpuManager.Lib.FreshNames
import XpuManager.Lib.Numerals
import XpuManager.Lib.RunningMax
import XpuManager.Utility.TableBuilder

/-! # Tables as JSON

`toJsonString` makes one object of each row. A header or a metadata key that is there already gets a
number behind it. -/

namespace XpuManager

namespace Table

open FreshNames

inductive JsonValue where
  | number (n : Nat)
  | string (text : Str)
  deriving DecidableEq

/-- An ordered object: keys with values, in the order in which the keys came. -/
abbrev JsonObject := List (Str × JsonValue)

/-- `obj[key] = value`: an entry that has the key is overwritten. -/
def JsonObject.set (obj : JsonObject) (key : Str) (value : JsonValue) : JsonObject :=
  if key ∈ obj.map Prod.fst then obj.map fun entry => if entry.1 = key then (key, value) else entry
  else obj ++ [(key, value)]

/-- `std::format("{}_{}", name, suffix)`. -/
def suffixed (name : Str) (suffix : Nat) : Str := name ++ ascii "_" ++ decimal suffix

/-- What the loops over the columns and over the metadata do with a name and its value. The search
for a suffix is given so many tries. -/
def addEntry (fuel : Nat) (state : JsonObject × List Str) (entry : Str × JsonValue) :
    Option (JsonObject × List Str) := do
  let (rowObj, seenKeys) := state
  let key ← rename suffixed fuel seenKeys entry.1
  some (rowObj.set key entry.2, seenKeys ++ [key])

def rowNumberKey : Str := ascii "row_number"

namespace TableBuilder

variable (t : TableBuilder)

/-- The headers with the values of the cells. -/
def cellEntries (row : Row) : List (Str × JsonValue) :=
  t.columns.zipIdx.map fun (col, colIdx) => (col.header, .string
    (if colIdx < row.cells.length then row.cells.getD colIdx [] else t.config.emptyCellText))

/-- The metadata. -/
def metadataEntries (row : Row) : List (Str × JsonValue) :=
  row.jsonMetadata.map fun (key, value) => (key, .string value)

/-- The object of a row, and the keys in it. -/
def rowObject (fuel rowIdx : Nat) (row : Row) : Option JsonObject := do
  let start : JsonObject × List Str :=
    if t.config.showRowNumbers then
      (JsonObject.set [] rowNumberKey (.number (rowIdx + 1)), [rowNumberKey])
    else ([], [])
  let state ← (t.cellEntries row).foldlM (addEntry fuel) start
  let state ← (metadataEntries row).foldlM (addEntry fuel) state
  some state.1

/-- The array that `toJsonString` prints. -/
def toJsonRows (fuel : Nat) : Option (List JsonObject) :=
  if t.columns = [] then some []
  else t.rows.zipIdx.mapM fun (row, rowIdx) => t.rowObject fuel rowIdx row

end TableBuilder

/-! ## Names with suffixes -/

/-- Distinct numbers have distinct numerals. -/
theorem ascii_decimal_inj {n m : Nat} (h : decimal n = decimal m) : n = m := by
  have hread (k : Nat) : (decimal k).map (fun c => Char.ofNat c.toNat) = (toString k).toList := by
    rw [decimal, ascii, List.map_map]
    refine (List.map_congr_left fun c hc => ?_).trans (List.map_id _)
    rw [Nat.toString_eq_repr, Nat.toList_repr] at hc
    have hdigit := Nat.isDigit_of_mem_toDigits (by decide) (by decide) hc
    have hsmall : c.toNat < 256 := by
      rw [Char.isDigit, Bool.and_eq_true, decide_eq_true_iff, decide_eq_true_iff] at hdigit
      have hle : c.toNat ≤ 57 := hdigit.2
      omega
    simp [UInt8.toNat_ofNat', Nat.mod_eq_of_lt hsmall, Char.ofNat_toNat]
  refine Numerals.toString_inj (String.ext ?_)
  rw [← hread n, ← hread m, h]

theorem suffixed_injective (name : Str) : Function.Injective (suffixed name) := by
  intro n m h
  rw [suffixed, suffixed] at h
  exact ascii_decimal_inj (List.append_cancel_left h)

/-! ## Entries -/

theorem JsonObject.set_of_not_mem {obj : JsonObject} {key : Str} (h : key ∉ obj.map Prod.fst)
    (value : JsonValue) : obj.set key value = obj ++ [(key, value)] :=
  if_neg h

/-- The entry has the value, and the name as its key, unless that has a suffix. -/
structure IsEntry (entry added : Str × JsonValue) : Prop where
  key : added.1 = entry.1 ∨ ∃ n, 1 ≤ n ∧ added.1 = suffixed entry.1 n
  value : added.2 = entry.2

/-- Entries that are added one after the other have keys of their own, and keep their values; the
search for a suffix needs no more tries than there are keys. -/
theorem addEntries_spec {fuel : Nat} (entries : List (Str × JsonValue)) (obj : JsonObject)
    (hnodup : (obj.map Prod.fst).Nodup) (hfuel : obj.length + entries.length ≤ fuel) :
    ∃ added, entries.foldlM (addEntry fuel) (obj, obj.map Prod.fst) =
        some (obj ++ added, (obj ++ added).map Prod.fst) ∧
      ((obj ++ added).map Prod.fst).Nodup ∧ List.Forall₂ IsEntry entries added := by
  induction entries generalizing obj with
  | nil => exact ⟨[], by simp, by simpa using hnodup, .nil⟩
  | cons entry entries ih =>
    have htries : (obj.map Prod.fst).length < fuel := by
      rw [List.length_cons] at hfuel
      rw [List.length_map]
      omega
    obtain ⟨key, hkey⟩ := exists_rename (suffixed_injective entry.1) htries
    have hfree : key ∉ obj.map Prod.fst := not_mem_of_rename hkey
    have hadd : addEntry fuel (obj, obj.map Prod.fst) entry =
        some (obj ++ [(key, entry.2)], (obj ++ [(key, entry.2)]).map Prod.fst) := by
      rw [addEntry, hkey, Option.bind_eq_bind, Option.bind_some, JsonObject.set_of_not_mem hfree,
        List.map_append, List.map_singleton]
    have hnodup' : ((obj ++ [(key, entry.2)]).map Prod.fst).Nodup := by
      rw [List.map_append, List.map_singleton]
      exact List.nodup_append_comm.mp (List.nodup_cons.mpr ⟨hfree, hnodup⟩)
    obtain ⟨added, hrun, hall, hentries⟩ := ih (obj ++ [(key, entry.2)]) hnodup' (by
      rw [List.length_append, List.length_singleton]
      rw [List.length_cons] at hfuel
      omega)
    rw [List.append_assoc] at hrun hall
    refine ⟨(key, entry.2) :: added, ?_, hall, .cons ⟨eq_or_candidate hkey, rfl⟩ hentries⟩
    rw [List.foldlM_cons, hadd, Option.bind_eq_bind, Option.bind_some, hrun]
    rfl

/-! ## The objects -/

namespace TableBuilder

/-- All entries of a row, with the names that they should have. -/
def rowEntries (t : TableBuilder) (rowIdx : Nat) (row : Row) : List (Str × JsonValue) :=
  (if t.config.showRowNumbers then [(rowNumberKey, .number (rowIdx + 1))] else []) ++
    (t.cellEntries row ++ metadataEntries row)

/-- The object has the entries of the row, each under a key of its own. -/
structure HasEntries (t : TableBuilder) (rowIdx : Nat) (row : Row) (obj : JsonObject) : Prop where
  nodup : (obj.map Prod.fst).Nodup
  entries : List.Forall₂ IsEntry (t.rowEntries rowIdx row) obj
  rowNumber : t.config.showRowNumbers = true →
    obj.head? = some (rowNumberKey, .number (rowIdx + 1))

theorem rowObject_eq (t : TableBuilder) (fuel rowIdx : Nat) (row : Row) :
    t.rowObject fuel rowIdx row = Prod.fst <$>
      (t.cellEntries row ++ metadataEntries row).foldlM (addEntry fuel)
        (if t.config.showRowNumbers then
          ([(rowNumberKey, .number (rowIdx + 1))], [rowNumberKey]) else ([], [])) := by
  rw [rowObject, List.foldlM_append]
  simp only [map_eq_pure_bind, bind_assoc]
  rfl

/-- The search for suffixes ends, and no entry of the row gets lost. -/
theorem rowObject_hasEntries (t : TableBuilder) {fuel rowIdx : Nat} {row : Row}
    (hfuel : (t.rowEntries rowIdx row).length ≤ fuel) :
    ∃ obj, t.rowObject fuel rowIdx row = some obj ∧ t.HasEntries rowIdx row obj := by
  rw [rowObject_eq]
  rw [rowEntries] at hfuel
  cases hnumber : t.config.showRowNumbers with
  | true =>
    rw [hnumber, if_pos rfl, List.length_append] at hfuel
    obtain ⟨added, hrun, hnodup, hentries⟩ := addEntries_spec
      (t.cellEntries row ++ metadataEntries row) [(rowNumberKey, .number (rowIdx + 1))]
      (List.nodup_singleton _) hfuel
    refine ⟨_, congrArg (Prod.fst <$> ·) hrun, hnodup, ?_, fun _ => rfl⟩
    rw [rowEntries, hnumber]
    exact .cons ⟨.inl rfl, rfl⟩ hentries
  | false =>
    rw [hnumber, if_neg (by simp), List.nil_append] at hfuel
    obtain ⟨added, hrun, hnodup, hentries⟩ := addEntries_spec
      (t.cellEntries row ++ metadataEntries row) [] List.nodup_nil (by simpa using hfuel)
    refine ⟨_, congrArg (Prod.fst <$> ·) hrun, hnodup, ?_, fun h => absurd h (by simp [hnumber])⟩
    rw [rowEntries, hnumber]
    exact hentries

/-- What each element of a list gives, a list of them gives. -/
theorem exists_mapM {α β : Type} {f : α → Option β} {P : α → β → Prop} {xs : List α}
    (h : ∀ x ∈ xs, ∃ y, f x = some y ∧ P x y) :
    ∃ ys, xs.mapM f = some ys ∧ List.Forall₂ P xs ys := by
  induction xs with
  | nil => exact ⟨[], rfl, .nil⟩
  | cons x xs ih =>
    obtain ⟨y, hy, hP⟩ := h x List.mem_cons_self
    obtain ⟨ys, hys, hall⟩ := ih fun x' hx' => h x' (List.mem_cons_of_mem x hx')
    exact ⟨y :: ys, by simp [List.mapM_cons, hy, hys], .cons hP hall⟩

/-- As many tries as this are enough for every row. -/
def enoughTries (t : TableBuilder) : Nat :=
  1 + t.columns.length + (t.rows.map fun row => row.jsonMetadata.length).foldl max 0

theorem length_rowEntries_le {t : TableBuilder} {row : Row} (hrow : row ∈ t.rows) (rowIdx : Nat) :
    (t.rowEntries rowIdx row).length ≤ t.enoughTries := by
  have hcells : (t.cellEntries row).length = t.columns.length := by simp [cellEntries]
  have hmetadata : (metadataEntries row).length = row.jsonMetadata.length := by simp [metadataEntries]
  have hmax : row.jsonMetadata.length ≤
      (t.rows.map fun row => row.jsonMetadata.length).foldl max 0 :=
    RunningMax.le_foldl_max_of_mem (List.mem_map_of_mem hrow)
  have hnumber : (if t.config.showRowNumbers then
      [(rowNumberKey, JsonValue.number (rowIdx + 1))] else []).length ≤ 1 := by
    split <;> simp
  rw [rowEntries, enoughTries, List.length_append, List.length_append, hcells, hmetadata]
  omega

/-- Every row of a table with columns has an object, in which each column, each metadata key and the
row number, if there is one, has an entry of its own. -/
theorem toJsonRows_entries (t : TableBuilder) {fuel : Nat} (hfuel : t.enoughTries ≤ fuel) :
    ∃ objects, t.toJsonRows fuel = some objects ∧ (t.columns ≠ [] →
      List.Forall₂ (fun row obj => t.HasEntries row.2 row.1 obj) t.rows.zipIdx objects) := by
  rw [toJsonRows]
  split
  case isTrue hcols => exact ⟨[], rfl, fun h => absurd hcols h⟩
  case isFalse =>
    obtain ⟨objects, hrun, hall⟩ := exists_mapM fun (row : Row × Nat) hrow =>
      have hle := length_rowEntries_le (List.fst_mem_of_mem_zipIdx hrow) row.2
      t.rowObject_hasEntries (hle.trans hfuel)
    exact ⟨objects, hrun, fun _ => hall⟩

/-- Headers that are there twice, or look like a header with a suffix. -/
def sameNames : TableBuilder :=
  { columns := [⟨ascii "fan", [], 1, .left⟩, ⟨ascii "fan_1", [], 1, .left⟩,
      ⟨ascii "fan", [], 1, .left⟩]
    rows := [{ cells := [ascii "10", ascii "20", ascii "30"]
               jsonMetadata := [(ascii "fan", ascii "40")] }] }

theorem toJsonRows_entries_sameNames : ∃ objects, sameNames.toJsonRows 5 = some objects ∧
    (sameNames.columns ≠ [] → List.Forall₂ (fun row obj => sameNames.HasEntries row.2 row.1 obj)
      sameNames.rows.zipIdx objects) :=
  toJsonRows_entries sameNames (by decide)

/-- The third column and the metadata take the next suffixes. -/
example : (sameNames.toJsonRows 5).map (List.map (List.map Prod.fst)) =
    some [[ascii "fan", ascii "fan_1", ascii "fan_2", ascii "fan_3"]] := by decide

end TableBuilder

end Table

end XpuManager
