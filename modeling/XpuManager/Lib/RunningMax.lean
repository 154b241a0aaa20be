import Mathlib.Order.Bounds.Defs
import Mathlib.Order.MinMax
import Mathlib.Data.List.Basic

/-! # A running maximum

The largest of a value and those of a list, as a loop computes it. -/

namespace RunningMax

variable {α β : Type*} [LinearOrder α] [LinearOrder β] {a b x : α} {xs : List α}

/-- The running maximum is the least bound of all items. -/
theorem foldl_max_le_iff : xs.foldl max a ≤ b ↔ a ≤ b ∧ ∀ x ∈ xs, x ≤ b := by
  induction xs generalizing a with
  | nil => simp
  | cons x xs ih => rw [List.foldl_cons, ih, max_le_iff, List.forall_mem_cons, and_assoc]

theorem le_foldl_max : a ≤ xs.foldl max a := (foldl_max_le_iff.mp le_rfl).1

theorem le_foldl_max_of_mem (h : x ∈ xs) : x ≤ xs.foldl max a := (foldl_max_le_iff.mp le_rfl).2 x h

/-- The running maximum is one of the items. -/
theorem foldl_max_mem : xs.foldl max a ∈ a :: xs := by
  induction xs generalizing a with
  | nil => exact List.mem_singleton_self a
  | cons x xs ih =>
    rcases List.mem_cons.mp (ih (a := max a x)) with h | h
    · rw [List.foldl_cons, h]
      rcases max_choice a x with hmax | hmax
      · rw [hmax]
        exact List.mem_cons_self
      · rw [hmax]
        exact List.mem_cons_of_mem _ List.mem_cons_self
    · exact List.mem_cons_of_mem _ (List.mem_cons_of_mem _ h)

/-- Beyond a bound that is below all values, the maximum is one of them. -/
theorem foldl_max_eq_or (h : ∀ x ∈ xs, a < x) :
    xs = [] ∧ xs.foldl max a = a ∨ IsGreatest { x | x ∈ xs } (xs.foldl max a) := by
  cases xs with
  | nil => exact .inl ⟨rfl, rfl⟩
  | cons x xs =>
    refine .inr ⟨?_, fun y hy => le_foldl_max_of_mem hy⟩
    refine (List.mem_cons.mp foldl_max_mem).resolve_left fun heq => ?_
    have hle : x ≤ (x :: xs).foldl max a := le_foldl_max_of_mem List.mem_cons_self
    exact absurd (heq ▸ hle) (not_le.mpr (h x List.mem_cons_self))

/-- Values that are skipped do not matter, if they are not larger than the first value. -/
theorem foldl_ite_max {p : α → Prop} [DecidablePred p] (h : ∀ x ∈ xs, ¬p x → x ≤ a) :
    xs.foldl (fun m x => if p x then max m x else m) a = xs.foldl max a := by
  induction xs generalizing a with
  | nil => rfl
  | cons x xs ih =>
    obtain ⟨hx, hxs⟩ := List.forall_mem_cons.mp h
    rw [List.foldl_cons, List.foldl_cons]
    by_cases hp : p x
    · rw [if_pos hp, ih fun y hy hpy => (hxs y hy hpy).trans (le_max_left a x)]
    · rw [if_neg hp, max_eq_left (hx hp), ih hxs]

/-- A monotone function of the maximum is the maximum of its values. -/
theorem map_foldl_max {g : α → β} (hg : Monotone g) (a : α) (xs : List α) :
    g (xs.foldl max a) = (xs.map g).foldl max (g a) := by
  induction xs generalizing a with
  | nil => rfl
  | cons x xs ih => rw [List.foldl_cons, ih, hg.map_max, List.map_cons, List.foldl_cons]

end RunningMax
