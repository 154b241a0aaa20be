import Mathlib.Data.List.Basic

/-! # Checked access to a span of memory

Reads at a position and views on a part of a span, each of which can lie outside, and loops that may not
have come to an end yet. -/

namespace Spans

/-- What can go wrong: an access outside, an exception, or a loop that needs more turns. -/
inductive Fault where
  | outside
  | thrown
  | unfinished
  deriving DecidableEq, Repr

variable {α β : Type} {span : List α} {i start count : Nat}

/-- An element, unless the index is outside. -/
def get (span : List α) (i : Nat) : Except Fault α :=
  match span[i]? with
  | none => .error .outside
  | some a => .ok a

/-- The part from a position to the end. -/
def subspan (span : List α) (start : Nat) : Except Fault (List α) :=
  if start ≤ span.length then .ok (span.drop start) else .error .outside

/-- So many elements from a position on. -/
def subspanOf (span : List α) (start count : Nat) : Except Fault (List α) :=
  if start + count ≤ span.length then .ok ((span.drop start).take count) else .error .outside

theorem get_eq (h : i < span.length) : get span i = .ok span[i] := by
  rw [get, List.getElem?_eq_getElem h]

theorem subspan_eq (h : start ≤ span.length) : subspan span start = .ok (span.drop start) := if_pos h

theorem subspanOf_eq (h : start + count ≤ span.length) :
    subspanOf span start count = .ok ((span.drop start).take count) := if_pos h

/-- A computation that has ended hands its value on. -/
theorem bind_ok (a : α) (k : α → Except Fault β) : (Except.ok a >>= k) = k a := rfl

/-- A read in a part is one in the whole. -/
theorem get_drop (span : List α) (start i : Nat) : get (span.drop start) i = get span (start + i) := by
  rw [get, get, List.getElem?_drop]

/-! ## Computations that end -/

/-- The computation comes to an end without a fault, with a value of which `P` holds. -/
def Ends (m : Except Fault α) (P : α → Prop) : Prop := ∃ a, m = .ok a ∧ P a

variable {m : Except Fault α} {k : α → Except Fault β} {P P' : α → Prop} {Q : β → Prop}

theorem Ends.pure {a : α} (h : P a) : Ends (Pure.pure a) P := ⟨a, rfl, h⟩

/-- **One computation after the other.** -/
theorem Ends.bind (hm : Ends m P) (hk : ∀ a, P a → Ends (k a) Q) : Ends (m >>= k) Q := by
  obtain ⟨a, rfl, ha⟩ := hm
  exact hk a ha

theorem Ends.mono (h : Ends m P) (hP : ∀ a, P a → P' a) : Ends m P' := by
  obtain ⟨a, hm, ha⟩ := h
  exact ⟨a, hm, hP a ha⟩

/-- Either branch of a decision ends. -/
theorem Ends.ite {c : Prop} [Decidable c] {n : Except Fault α} (hm : c → Ends m P)
    (hn : ¬c → Ends n P) : Ends (if c then m else n) P := by
  split
  next h => exact hm h
  next h => exact hn h

theorem ends_get (h : i < span.length) : Ends (get span i) fun _ => True :=
  ⟨span[i], get_eq h, trivial⟩

theorem ends_subspan (h : start ≤ span.length) : Ends (subspan span start) (· = span.drop start) :=
  ⟨_, subspan_eq h, rfl⟩

theorem ends_subspanOf (h : start + count ≤ span.length) :
    Ends (subspanOf span start count) fun part => part.length = count := by
  refine ⟨_, subspanOf_eq h, ?_⟩
  show ((span.drop start).take count).length = count
  rw [List.length_take, List.length_drop]
  omega

end Spans
