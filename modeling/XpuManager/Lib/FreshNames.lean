import Mathlib.Data.List.Nodup
import Mathlib.Data.List.Perm.Subperm
import Mathlib.Data.List.Range

/-! # Names that are not taken

A name that is taken is replaced by the first of its candidates that is not. -/

namespace FreshNames

variable {α : Type*} [DecidableEq α]

/-- The first candidate that is not taken, from the `n`th on, if it is one of so many. -/
def search (candidate : Nat → α) (taken : List α) : Nat → Nat → Option α
  | 0, _ => none
  | fuel + 1, n =>
    if candidate n ∈ taken then search candidate taken fuel (n + 1) else some (candidate n)

/-- The name, or its first candidate that is not taken. -/
def rename (candidate : α → Nat → α) (fuel : Nat) (taken : List α) (name : α) : Option α :=
  if name ∈ taken then search (candidate name) taken fuel 1 else some name

section

variable {candidate : Nat → α} {taken : List α} {fuel n : Nat} {a : α}

/-- What a search finds is a candidate that is not taken. -/
theorem exists_candidate (h : search candidate taken fuel n = some a) :
    ∃ m, n ≤ m ∧ a = candidate m ∧ a ∉ taken := by
  induction fuel generalizing n with
  | zero => exact absurd h (by simp [search])
  | succ fuel ih =>
    rw [search] at h
    split at h
    case isTrue =>
      obtain ⟨m, hm, ha⟩ := ih h
      exact ⟨m, Nat.le_of_succ_le hm, ha⟩
    case isFalse hfree =>
      obtain rfl := Option.some.inj h
      exact ⟨n, le_rfl, rfl, hfree⟩

/-- A search without a result has seen all its candidates taken. -/
theorem mem_of_search_eq_none (h : search candidate taken fuel n = none) :
    ∀ i < fuel, candidate (n + i) ∈ taken := by
  induction fuel generalizing n with
  | zero => exact fun i hi => absurd hi (Nat.not_lt_zero i)
  | succ fuel ih =>
    rw [search] at h
    split at h
    case isTrue htaken =>
      intro i hi
      cases i with
      | zero => exact htaken
      | succ i =>
        rw [Nat.add_succ, ← Nat.succ_add]
        exact ih h i (Nat.lt_of_succ_lt_succ hi)
    case isFalse => exact absurd h (by simp)

/-- With more candidates than names that are taken, the search has a result. -/
theorem exists_search (hinj : Function.Injective candidate) (hfuel : taken.length < fuel) (n : Nat) :
    ∃ a, search candidate taken fuel n = some a := by
  cases hsearch : search candidate taken fuel n with
  | some a => exact ⟨a, rfl⟩
  | none =>
    have hnodup : ((List.range fuel).map fun i => candidate (n + i)).Nodup :=
      List.nodup_range.map fun i j hij => Nat.add_left_cancel (hinj hij)
    have hsubset : ((List.range fuel).map fun i => candidate (n + i)) ⊆ taken := by
      intro a ha
      obtain ⟨i, hi, rfl⟩ := List.mem_map.mp ha
      exact mem_of_search_eq_none hsearch i (List.mem_range.mp hi)
    have hle := (List.subperm_of_subset hnodup hsubset).length_le
    rw [List.length_map, List.length_range] at hle
    omega

end

section

variable {candidate : α → Nat → α} {taken : List α} {fuel : Nat} {name key : α}

theorem not_mem_of_rename (h : rename candidate fuel taken name = some key) : key ∉ taken := by
  rw [rename] at h
  split at h
  case isTrue =>
    obtain ⟨m, -, -, hfree⟩ := exists_candidate h
    exact hfree
  case isFalse hfree =>
    obtain rfl := Option.some.inj h
    exact hfree

theorem eq_or_candidate (h : rename candidate fuel taken name = some key) :
    key = name ∨ ∃ n, 1 ≤ n ∧ key = candidate name n := by
  rw [rename] at h
  split at h
  case isTrue =>
    obtain ⟨m, hm, ha, -⟩ := exists_candidate h
    exact .inr ⟨m, hm, ha⟩
  case isFalse => exact .inl (Option.some.inj h).symm

theorem exists_rename (hinj : Function.Injective (candidate name)) (hfuel : taken.length < fuel) :
    ∃ key, rename candidate fuel taken name = some key := by
  rw [rename]
  split
  case isTrue => exact exists_search hinj hfuel 1
  case isFalse => exact ⟨name, rfl⟩

end

end FreshNames
