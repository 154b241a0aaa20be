import Mathlib.Data.List.Induction
import Mathlib.Data.List.Nodup

/-! # Keeping the first entry of each key

Entries are added one by one, and an entry whose key is there already is left out. -/

variable {α κ : Type} [DecidableEq κ] (key : α → κ)

/-- The entries after `x` came to `xs`. -/
def keepFirst (xs : List α) (x : α) : List α :=
  if key x ∈ xs.map key then xs else xs ++ [x]

section

variable {key} {xs ys : List α} {x y : α}

theorem keepFirst_of_mem (h : key x ∈ xs.map key) : keepFirst key xs x = xs :=
  if_pos h

theorem keepFirst_of_not_mem (h : key x ∉ xs.map key) : keepFirst key xs x = xs ++ [x] :=
  if_neg h

/-- A list adds what it would leave alone, less the keys that are there. -/
theorem foldl_keepFirst :
    ys.foldl (keepFirst key) xs =
      xs ++ (ys.foldl (keepFirst key) []).filter fun y => decide (key y ∉ xs.map key) := by
  induction ys using List.reverseRecOn with
  | nil => simp
  | append_singleton ys y ih =>
    rw [List.foldl_concat, List.foldl_concat, ih]
    generalize ys.foldl (keepFirst key) [] = zs
    by_cases hxs : key y ∈ xs.map key
    · rw [keepFirst_of_mem (by simp [List.mem_map.mp hxs])]
      by_cases hzs : key y ∈ zs.map key
      · rw [keepFirst_of_mem hzs]
      · rw [keepFirst_of_not_mem hzs, List.filter_append, List.filter_cons_of_neg (by simpa using hxs)]
        simp
    · by_cases hzs : key y ∈ zs.map key
      · rw [keepFirst_of_mem hzs, keepFirst_of_mem]
        obtain ⟨z, hz, hkey⟩ := List.mem_map.mp hzs
        rw [List.map_append, List.mem_append]
        refine .inr (List.mem_map.mpr ⟨z, List.mem_filter.mpr ⟨hz, ?_⟩, hkey⟩)
        rw [hkey]
        exact decide_eq_true hxs
      · rw [keepFirst_of_not_mem hzs, keepFirst_of_not_mem, List.filter_append, List.append_assoc]
        · have hy : decide (key y ∉ xs.map key) = true := decide_eq_true hxs
          rw [List.filter_singleton, hy, cond_true]
        · rw [List.map_append, List.mem_append, not_or]
          refine ⟨hxs, fun h => hzs ?_⟩
          obtain ⟨z, hz, hkey⟩ := List.mem_map.mp h
          exact List.mem_map.mpr ⟨z, List.mem_of_mem_filter hz, hkey⟩

/-- No key is there twice. -/
theorem nodup_foldl_keepFirst (h : (xs.map key).Nodup) :
    ((ys.foldl (keepFirst key) xs).map key).Nodup := by
  induction ys generalizing xs with
  | nil => exact h
  | cons y ys ih =>
    refine ih ?_
    rw [keepFirst]
    split
    case isTrue => exact h
    case isFalse hkey =>
      rw [List.map_append]
      exact h.append (List.nodup_singleton _) (by simpa using hkey)

/-- Nothing comes from elsewhere. -/
theorem mem_of_mem_foldl_keepFirst (h : y ∈ ys.foldl (keepFirst key) xs) : y ∈ xs ∨ y ∈ ys := by
  induction ys generalizing xs with
  | nil => exact .inl h
  | cons x ys ih =>
    rcases ih h with h | h
    · rw [keepFirst] at h
      split at h
      case isTrue => exact .inl h
      case isFalse =>
        rcases List.mem_append.mp h with h | h
        · exact .inl h
        · exact .inr (by simp [List.mem_singleton.mp h])
    · exact .inr (List.mem_cons_of_mem _ h)

/-- Every key is there. -/
theorem mem_map_foldl_keepFirst (h : y ∈ xs ∨ y ∈ ys) :
    key y ∈ (ys.foldl (keepFirst key) xs).map key := by
  induction ys generalizing xs y with
  | nil => exact List.mem_map_of_mem (h.resolve_right List.not_mem_nil)
  | cons x ys ih =>
    have hkeep : ∀ z ∈ xs, z ∈ keepFirst key xs x := by
      intro z hz
      rw [keepFirst]
      split
      · exact hz
      · exact List.mem_append_left _ hz
    rcases h with h | h
    · exact ih (.inl (hkeep y h))
    · rcases List.mem_cons.mp h with rfl | h
      · by_cases hkey : key y ∈ xs.map key
        · obtain ⟨z, hz, hkey⟩ := List.mem_map.mp hkey
          rw [← hkey]
          exact ih (.inl (hkeep z hz))
        · exact ih (.inl (by rw [keepFirst_of_not_mem hkey]; simp))
      · exact ih (.inr h)

/-- Where the key tells the entries apart, an entry is there exactly when it was added. -/
theorem mem_foldl_keepFirst_iff (hkey : ∀ z ∈ xs ++ ys, ∀ z' ∈ xs ++ ys, key z = key z' → z = z') :
    y ∈ ys.foldl (keepFirst key) xs ↔ y ∈ xs ∨ y ∈ ys := by
  refine ⟨mem_of_mem_foldl_keepFirst, fun h => ?_⟩
  have hmem : key y ∈ (ys.foldl (keepFirst key) xs).map key := mem_map_foldl_keepFirst h
  obtain ⟨z, hz, heq⟩ := List.mem_map.mp hmem
  have hzmem := List.mem_append.mpr (mem_of_mem_foldl_keepFirst hz)
  rwa [hkey z hzmem y (List.mem_append.mpr h) heq] at hz

end
