import Mathlib.Data.List.Basic

/-! # Lines

A text whose lines each end with a separator. -/

namespace Lines

variable {α β : Type*} {sep : α} {text text' line : List α} {f : β → List α} {xs : List β}
  {P : List α → Prop}

/-- The text ends with a separator, or is empty. -/
def Closed (sep : α) (text : List α) : Prop := text = [] ∨ ∃ front, text = front ++ [sep]

theorem closed_nil : Closed sep [] := .inl rfl

theorem closed_line (line : List α) : Closed sep (line ++ [sep]) := .inr ⟨line, rfl⟩

theorem Closed.append (h : Closed sep text) (h' : Closed sep text') : Closed sep (text ++ text') := by
  rcases h' with rfl | ⟨front, rfl⟩
  · rwa [List.append_nil]
  · exact .inr ⟨text ++ front, (List.append_assoc _ _ _).symm⟩

theorem Closed.flatMap (h : ∀ x ∈ xs, Closed sep (f x)) : Closed sep (xs.flatMap f) := by
  induction xs with
  | nil => exact closed_nil
  | cons x xs ih =>
    rw [List.flatMap_cons]
    exact (h x List.mem_cons_self).append (ih fun y hy => h y (List.mem_cons_of_mem _ hy))

section

variable [DecidableEq α]

/-- The lines of a text, each of which ends with a separator. -/
def linesOf (sep : α) (text : List α) : List (List α) := (text.splitOn sep).dropLast

theorem linesOf_append (h : Closed sep text) :
    linesOf sep (text ++ text') = linesOf sep text ++ linesOf sep text' := by
  rcases h with rfl | ⟨front, rfl⟩
  · rfl
  · rw [linesOf, linesOf, linesOf, List.append_assoc, List.singleton_append,
      List.splitOn_append_cons_self, List.splitOn_append_cons_self,
      List.dropLast_append_of_ne_nil (List.splitOn_ne_nil sep text')]
    simp

/-- What holds of the lines of two texts holds of those of both. -/
theorem forall_linesOf_append (h : Closed sep text) :
    (∀ line ∈ linesOf sep (text ++ text'), P line) ↔
      (∀ line ∈ linesOf sep text, P line) ∧ ∀ line ∈ linesOf sep text', P line := by
  rw [linesOf_append h, List.forall_mem_append]

theorem forall_linesOf_line (h : sep ∉ line) :
    (∀ l ∈ linesOf sep (line ++ [sep]), P l) ↔ P line := by
  rw [linesOf, List.splitOn_append_cons_self, List.splitOn_eq_singleton h]
  simp

/-- What holds of the lines of many texts holds of those of all of them together. -/
theorem forall_linesOf_flatMap (h : ∀ x ∈ xs, Closed sep (f x)) :
    (∀ line ∈ linesOf sep (xs.flatMap f), P line) ↔
      ∀ x ∈ xs, ∀ line ∈ linesOf sep (f x), P line := by
  induction xs with
  | nil => simp [linesOf]
  | cons x xs ih =>
    rw [List.flatMap_cons, forall_linesOf_append (h x List.mem_cons_self),
      ih fun y hy => h y (List.mem_cons_of_mem _ hy), List.forall_mem_cons]

end

end Lines
