import Mathlib.Data.List.Basic

/-! # The first item that matches

A loop over a list that passes over some items and stops at the first one that matches. -/

namespace FirstMatch

variable {α : Type*} {p : α → Prop} {items before before' after after' : List α} {a a' : α}

/-- The first item that matches, with the ones before and behind it. -/
structure FirstAt (p : α → Prop) (items before : List α) (a : α) (after : List α) : Prop where
  split : items = before ++ a :: after
  holds : p a
  before : ∀ b ∈ before, ¬p b

namespace FirstAt

theorem mem (h : FirstAt p items before a after) : a ∈ items := by
  rw [h.split]
  exact List.mem_append_right _ List.mem_cons_self

theorem cons {b : α} (h : FirstAt p items before a after) (hb : ¬p b) :
    FirstAt p (b :: items) (b :: before) a after where
  split := by rw [h.split, List.cons_append]
  holds := h.holds
  before := List.forall_mem_cons.mpr ⟨hb, h.before⟩

/-- There is one place where the loop stops. -/
theorem unique (h : FirstAt p items before a after) (h' : FirstAt p items before' a' after') :
    before = before' ∧ a = a' ∧ after = after' := by
  induction items generalizing before before' with
  | nil => exact absurd h.mem List.not_mem_nil
  | cons b items ih =>
    cases before with
    | nil =>
      obtain ⟨rfl, rfl⟩ := List.cons.inj h.split
      cases before' with
      | nil =>
        obtain ⟨rfl, rfl⟩ := List.cons.inj h'.split
        exact ⟨rfl, rfl, rfl⟩
      | cons c before' =>
        obtain ⟨rfl, -⟩ := List.cons.inj h'.split
        exact absurd h.holds (h'.before _ List.mem_cons_self)
    | cons c before =>
      obtain ⟨rfl, hsplit⟩ := List.cons.inj h.split
      cases before' with
      | nil =>
        obtain ⟨rfl, -⟩ := List.cons.inj h'.split
        exact absurd h'.holds (h.before _ List.mem_cons_self)
      | cons c' before' =>
        obtain ⟨rfl, hsplit'⟩ := List.cons.inj h'.split
        obtain ⟨rfl, rfl, rfl⟩ := ih ⟨hsplit, h.holds, (List.forall_mem_cons.mp h.before).2⟩
          ⟨hsplit', h'.holds, (List.forall_mem_cons.mp h'.before).2⟩
        exact ⟨rfl, rfl, rfl⟩

/-- An item is exchanged for one that matches no more and no less: the loop stops in the same place,
where it may find the new item. -/
theorem replace {before' after' : List α} {b : α}
    (h : FirstAt p (before' ++ b :: after') before a after) (b' : α) (hp : p b' ↔ p b) :
    (before = before' ∧ a = b ∧ FirstAt p (before' ++ b' :: after') before' b' after') ∨
      (before ≠ before' ∧ ∃ rest rest', FirstAt p (before' ++ b' :: after') rest a rest') := by
  induction before' generalizing before with
  | nil =>
    cases before with
    | nil =>
      obtain ⟨rfl, rfl⟩ := List.cons.inj h.split
      exact .inl ⟨rfl, rfl, rfl, hp.mpr h.holds, fun _ hmem => absurd hmem List.not_mem_nil⟩
    | cons c before =>
      obtain ⟨rfl, hsplit⟩ := List.cons.inj h.split
      have hbefore := List.forall_mem_cons.mp h.before
      have hrest : FirstAt p after' before a after := ⟨hsplit, h.holds, hbefore.2⟩
      exact .inr ⟨List.cons_ne_nil _ _, _, _, hrest.cons fun hb' => hbefore.1 (hp.mp hb')⟩
  | cons c before' ih =>
    cases before with
    | nil =>
      obtain ⟨rfl, -⟩ := List.cons.inj h.split
      exact .inr ⟨(List.cons_ne_nil _ _).symm, [], _, rfl, h.holds,
        fun _ hmem => absurd hmem List.not_mem_nil⟩
    | cons c' before =>
      obtain ⟨rfl, hsplit⟩ := List.cons.inj h.split
      have hbefore := List.forall_mem_cons.mp h.before
      rcases ih ⟨hsplit, h.holds, hbefore.2⟩ with ⟨rfl, rfl, hfirst⟩ | ⟨hne, _, _, hfirst⟩
      · exact .inl ⟨rfl, rfl, hfirst.cons hbefore.1⟩
      · exact .inr ⟨fun heq => hne (List.cons.inj heq).2, _, _, hfirst.cons hbefore.1⟩

end FirstAt

/-- There is a first match if anything matches at all. -/
theorem exists_firstAt (h : ∃ a ∈ items, p a) : ∃ before a after, FirstAt p items before a after := by
  induction items with
  | nil =>
    obtain ⟨a, hmem, -⟩ := h
    exact absurd hmem List.not_mem_nil
  | cons b items ih =>
    by_cases hb : p b
    · exact ⟨[], b, items, rfl, hb, fun _ hmem => absurd hmem List.not_mem_nil⟩
    · obtain ⟨a, hmem, ha⟩ := h
      rcases List.mem_cons.mp hmem with rfl | hmem
      · exact absurd ha hb
      · obtain ⟨before, a, after, hfirst⟩ := ih ⟨a, hmem, ha⟩
        exact ⟨b :: before, a, after, hfirst.cons hb⟩

end FirstMatch
