import Mathlib.Algebra.Order.BigOperators.Group.List
import Mathlib.Algebra.Order.Ring.Nat
import Mathlib.Data.UInt
import XpuManager.Lib.Upsert

/-! # Sums of 64-bit numbers

Numbers that are added up as the program adds them up, and the largest of some numbers. -/

namespace WordSums

variable {α : Type} {f g : α → UInt64} {records : List α}

/-- The values of some records, as 64-bit numbers add up. -/
abbrev sumOf (f : α → UInt64) (records : List α) : UInt64 := Upsert.gather (· + ·) 0 f records

theorem sumOf_concat (f : α → UInt64) (records : List α) (record : α) :
    sumOf f (records ++ [record]) = sumOf f records + f record :=
  Upsert.gather_concat ..

theorem sumOf_cons (f : α → UInt64) (record : α) (records : List α) :
    sumOf f (record :: records) = f record + sumOf f records :=
  (Upsert.gather_cons ..).trans (UInt64.add_comm _ _)

/-- A sum of sums. -/
theorem sumOf_add (f g : α → UInt64) (records : List α) :
    sumOf (fun record => f record + g record) records = sumOf f records + sumOf g records := by
  induction records using List.reverseRecOn with
  | nil => exact (UInt64.add_zero 0).symm
  | append_singleton records record ih =>
    rw [sumOf_concat, sumOf_concat, sumOf_concat, ih]
    grind

/-- A sum of differences. -/
theorem sumOf_sub (f g : α → UInt64) (records : List α) :
    sumOf (fun record => f record - g record) records = sumOf f records - sumOf g records := by
  induction records using List.reverseRecOn with
  | nil => exact (UInt64.sub_self 0).symm
  | append_singleton records record ih =>
    rw [sumOf_concat, sumOf_concat, sumOf_concat, ih]
    grind

/-- Sums that do not overflow. -/
theorem toNat_sumOf (h : (records.map fun record => (f record).toNat).sum < 0x10000000000000000) :
    (sumOf f records).toNat = (records.map fun record => (f record).toNat).sum := by
  induction records with
  | nil => rfl
  | cons record records ih =>
    rw [List.map_cons, List.sum_cons] at h ⊢
    have hrest := ih (Nat.lt_of_le_of_lt (Nat.le_add_left _ _) h)
    rw [sumOf_cons, UInt64.toNat_add, hrest]
    exact Nat.mod_eq_of_lt h

theorem sum_toNat_eq_zero_iff :
    (records.map fun record => (f record).toNat).sum = 0 ↔ ∀ record ∈ records, f record = 0 := by
  rw [List.sum_eq_zero_iff_forall_eq_nat, List.forall_mem_map]
  exact forall₂_congr fun record _ => UInt64.toNat_inj (b := 0)

theorem sum_map_eq_iff {f g : α → Nat} (h : ∀ record ∈ records, f record ≤ g record) :
    (records.map g).sum = (records.map f).sum ↔ ∀ record ∈ records, g record = f record := by
  induction records with
  | nil => exact iff_of_true rfl nofun
  | cons record records ih =>
    rw [List.forall_mem_cons] at h
    have hle : (records.map f).sum ≤ (records.map g).sum := List.sum_le_sum h.2
    rw [List.map_cons, List.map_cons, List.sum_cons, List.sum_cons, List.forall_mem_cons, ← ih h.2]
    have hrecord := h.1
    omega

/-! ## The largest number -/

/-- The larger one of two numbers. -/
def later (n other : UInt64) : UInt64 := if n < other then other else n

theorem toNat_later (n other : UInt64) : (later n other).toNat = max n.toNat other.toNat := by
  rw [later]
  split
  next hlt => exact (max_eq_right (UInt64.le_iff_toNat_le.mp (UInt64.le_of_lt hlt))).symm
  next hle => exact (max_eq_left (UInt64.le_iff_toNat_le.mp (UInt64.not_lt.mp hle))).symm

theorem later_lt_iff {a b bound : UInt64} : later a b < bound ↔ a < bound ∧ b < bound := by
  rw [UInt64.lt_iff_toNat_lt, toNat_later, max_lt_iff, ← UInt64.lt_iff_toNat_lt, ← UInt64.lt_iff_toNat_lt]

instance : Std.Associative later where
  assoc a b c := by
    rw [← UInt64.toNat_inj, toNat_later, toNat_later, toNat_later, toNat_later, max_assoc]

instance : Std.Commutative later where
  comm a b := by rw [← UInt64.toNat_inj, toNat_later, toNat_later, max_comm]

/-- The largest number. -/
abbrev latest (f : α → UInt64) (records : List α) : UInt64 := Upsert.gather later 0 f records

theorem latest_le_iff {bound : UInt64} :
    latest f records ≤ bound ↔ ∀ record ∈ records, f record ≤ bound := by
  induction records with
  | nil => simp [latest]
  | cons record records ih =>
    rw [latest, Upsert.gather_cons, UInt64.le_iff_toNat_le, toNat_later, max_le_iff,
      ← UInt64.le_iff_toNat_le, ← UInt64.le_iff_toNat_le, List.forall_mem_cons, ← ih]
    exact and_comm

/-- A record has the largest number if no other one has a larger one. -/
theorem eq_latest_iff {record : α} (hmem : record ∈ records) :
    f record = latest f records ↔ ∀ other ∈ records, f other ≤ f record := by
  rw [← latest_le_iff]
  constructor
  · intro h
    rw [← h]
    exact UInt64.le_refl _
  · intro h
    exact UInt64.le_antisymm (latest_le_iff.mp (UInt64.le_refl _) record hmem) h

end WordSums
