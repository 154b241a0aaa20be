import Mathlib.Data.List.Induction
import Mathlib.Data.List.Nodup

/-! # Lists of records with keys

A record is found in a list by its key, and changed; if there is none, it is added at the end. -/

namespace Upsert

variable {α κ ι : Type*} [DecidableEq κ] (key : α → κ)

/-- The first record with the key is changed, or a new one is added. -/
def upsert (k : κ) (change : α → α) (new : α) : List α → List α
  | [] => [new]
  | record :: records =>
    if key record = k then change record :: records else record :: upsert k change new records

section

variable {key} {k : κ} {change : α → α} {new : α}

theorem upsert_append {records : List α} (h : k ∉ records.map key) (rest : List α) :
    upsert key k change new (records ++ rest) = records ++ upsert key k change new rest := by
  induction records with
  | nil => rfl
  | cons record records ih =>
    rw [List.map_cons, List.mem_cons, not_or] at h
    rw [List.cons_append, upsert, if_neg (Ne.symm h.1), ih h.2, List.cons_append]

theorem upsert_of_notMem {records : List α} (h : k ∉ records.map key) :
    upsert key k change new records = records ++ [new] := by
  have happend : upsert key k change new (records ++ []) = records ++ [new] := upsert_append h []
  rwa [List.append_nil] at happend

variable {name : ι → κ} {change : ι → α → α} {new : ι → α}

/-- Records with different keys are added one after the other. -/
theorem foldl_upsert_nil (hkey : ∀ i, key (new i) = name i) {items : List ι}
    (h : (items.map name).Nodup) :
    items.foldl (fun records i => upsert key (name i) (change i) (new i) records) [] =
      items.map new := by
  induction items using List.reverseRecOn with
  | nil => rfl
  | append_singleton items i ih =>
    rw [List.map_append, List.nodup_append] at h
    have hfresh : name i ∉ (items.map new).map key := by
      rw [List.map_map]
      intro hmem
      obtain ⟨j, hj, heq⟩ := List.mem_map.mp hmem
      exact h.2.2 (name j) (List.mem_map.mpr ⟨j, hj, rfl⟩) (name i) List.mem_cons_self
        ((hkey j).symm.trans heq)
    rw [List.foldl_concat, ih h.1, upsert_of_notMem hfresh, List.map_append, List.map_singleton]

/-- The same records again are all changed. -/
theorem foldl_upsert_map {old : ι → α} (hold : ∀ i, key (old i) = name i)
    (hnew : ∀ i, key (change i (old i)) = name i) {items : List ι} (h : (items.map name).Nodup) :
    items.foldl (fun records i => upsert key (name i) (change i) (new i) records) (items.map old) =
      items.map fun i => change i (old i) := by
  suffices hsplit : ∀ (rest before : List ι), ((before ++ rest).map name).Nodup →
      rest.foldl (fun records i => upsert key (name i) (change i) (new i) records)
        ((before.map fun i => change i (old i)) ++ rest.map old) =
      (before ++ rest).map fun i => change i (old i) from hsplit items [] h
  intro rest
  induction rest with
  | nil => exact fun before _ => by rw [List.map_nil, List.append_nil, List.append_nil]; rfl
  | cons i rest ih =>
    intro before hnodup
    have hfresh : name i ∉ (before.map fun i => change i (old i)).map key := by
      rw [List.map_map]
      intro hmem
      obtain ⟨j, hj, heq⟩ := List.mem_map.mp hmem
      rw [List.map_append, List.nodup_append] at hnodup
      exact hnodup.2.2 (name j) (List.mem_map.mpr ⟨j, hj, rfl⟩) (name i) List.mem_cons_self
        ((hnew j).symm.trans heq)
    rw [List.foldl_cons, List.map_cons, upsert_append hfresh, upsert, if_pos (hold i)]
    have hrest := ih (before ++ [i]) (by rwa [List.append_assoc])
    rw [List.map_append, List.append_assoc, List.append_assoc] at hrest
    exact hrest

/-- A record is found by its key where no two have the same. -/
theorem find?_key_eq_some_iff {records : List α} (h : (records.map key).Nodup) {record : α} :
    records.find? (fun record => key record = k) = some record ↔ record ∈ records ∧ key record = k := by
  constructor
  · intro hfind
    have hkey := List.find?_some hfind
    exact ⟨List.mem_of_find?_eq_some hfind, of_decide_eq_true hkey⟩
  · rintro ⟨hmem, rfl⟩
    cases hfind : records.find? fun other => key other = key record with
    | none => exact absurd (decide_eq_true rfl) (List.find?_eq_none.mp hfind record hmem)
    | some other =>
      have hkey := List.find?_some hfind
      rw [List.inj_on_of_nodup_map h (List.mem_of_find?_eq_some hfind) hmem (of_decide_eq_true hkey)]

/-- A loop that keeps what it finds at a key, which it finds no more than once. -/
theorem foldl_ite_key {β : Type*} {records : List α} (h : (records.map key).Nodup) (f : α → β)
    (start : β) : records.foldl (fun found record => if key record = k then f record else found) start =
      ((records.find? fun record => key record = k).map f).getD start := by
  induction records generalizing start with
  | nil => rfl
  | cons record records ih =>
    rw [List.map_cons, List.nodup_cons] at h
    rw [List.foldl_cons, ih h.2]
    by_cases hk : key record = k
    · subst hk
      have hnone : (records.find? fun other => key other = key record) = none := by
        rw [List.find?_eq_none]
        intro other hother heq
        exact h.1 (List.mem_map.mpr ⟨other, hother, of_decide_eq_true heq⟩)
      have hfirst : ((record :: records).find? fun other => key other = key record) = some record :=
        List.find?_cons_of_pos (decide_eq_true rfl)
      rw [hnone, hfirst, if_pos rfl]
      rfl
    · rw [if_neg hk, List.find?_cons_of_neg (by simpa using hk)]

end

/-! ## Values of all records -/

section Gather

variable {M : Type*} (op : M → M → M) (e : M) (f : α → M)

/-- The values of some records, put together. -/
def gather (records : List α) : M := records.foldl (fun gathered record => op gathered (f record)) e

@[simp] theorem gather_nil : gather op e f [] = e := rfl

theorem gather_concat (records : List α) (record : α) :
    gather op e f (records ++ [record]) = op (gather op e f records) (f record) :=
  List.foldl_concat ..

theorem gather_map {β : Type*} (g : β → α) (items : List β) :
    gather op e f (items.map g) = gather op e (fun i => f (g i)) items :=
  List.foldl_map

variable {op e f} [Std.Associative op] [Std.Commutative op]

theorem gather_cons (record : α) (records : List α) :
    gather op e f (record :: records) = op (gather op e f records) (f record) := by
  induction records using List.reverseRecOn with
  | nil => rfl
  | append_singleton records last ih =>
    rw [← List.cons_append, gather_concat, ih, gather_concat]
    exact RightCommutative.right_comm _ _ _

/-- A record that is changed adds to the value of all. -/
theorem gather_upsert {k : κ} {change : α → α} {new : α} {v : M} (hnew : f new = v)
    (hchange : ∀ record, f (change record) = op (f record) v) (records : List α) :
    gather op e f (upsert key k change new records) = op (gather op e f records) v := by
  induction records with
  | nil =>
    rw [upsert, gather_cons, hnew]
  | cons record records ih =>
    rw [upsert]
    split
    · rw [gather_cons, gather_cons, hchange]
      exact (Std.Associative.assoc _ _ _).symm
    · rw [gather_cons, gather_cons, ih]
      exact RightCommutative.right_comm _ _ _

/-- However the items are spread over the records, all their values are in the value of all. -/
theorem gather_foldl_upsert {name : ι → κ} {change : ι → α → α} {new : ι → α} {v : ι → M}
    (hnew : ∀ i, f (new i) = v i) (hchange : ∀ i record, f (change i record) = op (f record) (v i))
    (items : List ι) :
    gather op e f (items.foldl (fun records i => upsert key (name i) (change i) (new i) records) []) =
      gather op e v items := by
  induction items using List.reverseRecOn with
  | nil => rfl
  | append_singleton items i ih =>
    rw [List.foldl_concat, gather_concat, ← ih]
    exact gather_upsert key (hnew i) (hchange i) _

end Gather

end Upsert
