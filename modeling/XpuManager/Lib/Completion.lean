import Mathlib.Data.List.Nodup
import Mathlib.Data.List.Perm.Subperm

/-! # Completing a selection

A list of items, some of which have been selected. The others are looked for by a test that may be
mistaken, and only as many are taken as are expected. -/

namespace Completion

variable {α : Type} {new wanted : α → Bool} {items selected : List α}

/-- **The first that pass.** They are the wanted items exactly if all wanted items pass, and none that
is not wanted passes before a wanted one. -/
theorem take_filter_perm_iff :
    ((items.filter new).take (items.filter wanted).length).Perm (items.filter wanted) ↔
      (∀ x ∈ items, wanted x = true → new x = true) ∧
        items.Pairwise fun x y => wanted y = true → new x = true → wanted x = true := by
  induction items with
  | nil => simp
  | cons x items ih =>
    rw [List.pairwise_cons, List.forall_mem_cons]
    by_cases hwanted : wanted x = true <;> by_cases hnew : new x = true
    · rw [List.filter_cons_of_pos hwanted, List.filter_cons_of_pos hnew, List.length_cons,
        List.take_succ_cons, List.perm_cons, ih]
      tauto
    · refine iff_of_false (fun hperm => ?_) fun h => hnew (h.1.1 hwanted)
      rw [List.filter_cons_of_pos hwanted, List.filter_cons_of_neg hnew] at hperm
      have hmem := List.mem_of_mem_take (hperm.mem_iff.mpr List.mem_cons_self)
      exact hnew (List.mem_filter.mp hmem).2
    · rw [List.filter_cons_of_neg hwanted, List.filter_cons_of_pos hnew]
      -- Neither side leaves room for a wanted item behind `x`.
      constructor
      · intro hperm
        have hnone : items.filter wanted = [] := by
          by_contra hne
          obtain ⟨y, ys, hys⟩ := List.exists_cons_of_ne_nil hne
          rw [hys, List.length_cons, List.take_succ_cons] at hperm
          have hmem := hperm.mem_iff.mp List.mem_cons_self
          rw [← hys] at hmem
          exact hwanted (List.mem_filter.mp hmem).2
        have hall := List.filter_eq_nil_iff.mp hnone
        refine ⟨⟨fun h => absurd h hwanted, fun y hy h => absurd h (hall y hy)⟩,
          fun y hy h => absurd h (hall y hy), ?_⟩
        exact List.pairwise_of_forall_mem_list fun _ _ y hy h => absurd h (hall y hy)
      · rintro ⟨-, hfirst, -⟩
        have hnone : items.filter wanted = [] :=
          List.filter_eq_nil_iff.mpr fun y hy h => hwanted (hfirst y hy h hnew)
        rw [hnone]
        exact List.Perm.nil
    · rw [List.filter_cons_of_neg hwanted, List.filter_cons_of_neg hnew, ih]
      tauto

theorem filter_notMem_self [DecidableEq α] (selected : List α) :
    selected.filter (fun x => decide (x ∉ selected)) = [] :=
  List.filter_eq_nil_iff.mpr fun _ hx h => of_decide_eq_true h hx

/-- **The whole.** Some selected items, and as many that pass the test as are missing, are all items,
each once, exactly if the selected items are selected once, and the others pass before any of them. -/
theorem append_take_filter_perm_iff [DecidableEq α] {n : Nat} (hitems : items.Nodup)
    (hselected : selected ⊆ items) (hn : n + selected.length = items.length) :
    (selected ++ (items.filter new).take n).Perm items ↔
      selected.Nodup ∧ (∀ x ∈ items, x ∉ selected → new x = true) ∧
        items.Pairwise fun x y => y ∉ selected → x ∈ selected → new x = false := by
  have hconditions : ((∀ x ∈ items, decide (x ∉ selected) = true → new x = true) ∧
      items.Pairwise fun x y => decide (y ∉ selected) = true → new x = true →
        decide (x ∉ selected) = true) ↔
      (∀ x ∈ items, x ∉ selected → new x = true) ∧
        items.Pairwise fun x y => y ∉ selected → x ∈ selected → new x = false := by
    refine and_congr (by simp only [decide_eq_true_eq]) (List.Pairwise.iff fun x y => ?_)
    simp only [decide_eq_true_eq, ← Bool.not_eq_true]
    tauto
  rw [← hconditions, ← take_filter_perm_iff]
  constructor
  · intro hperm
    have hnodup := List.nodup_append.mp (hperm.nodup_iff.mpr hitems)
    have hrest : ((items.filter new).take n).Perm (items.filter fun x => decide (x ∉ selected)) := by
      have hfilter := hperm.filter fun x => decide (x ∉ selected)
      rw [List.filter_append, filter_notMem_self, List.nil_append] at hfilter
      refine (List.Perm.of_eq ?_).trans hfilter
      refine (List.filter_eq_self.mpr fun x hx => decide_eq_true ?_).symm
      exact fun hmem => hnodup.2.2 x hmem x hx rfl
    have hlength : (items.filter fun x => decide (x ∉ selected)).length = n := by
      have hall := hperm.length_eq
      have hpart := hrest.length_eq
      rw [List.length_append] at hall
      omega
    rw [hlength]
    exact ⟨hnodup.1, hrest⟩
  · rintro ⟨hnodup, hrest⟩
    have hin : (items.filter fun x => decide (x ∈ selected)).Perm selected := by
      refine (List.perm_ext_iff_of_nodup (hitems.filter _) hnodup).mpr fun x => ?_
      rw [List.mem_filter, decide_eq_true_eq]
      exact ⟨fun h => h.2, fun h => ⟨hselected h, h⟩⟩
    have hsplit : (items.filter (fun x => decide (x ∈ selected)) ++
        items.filter fun x => decide (x ∉ selected)).Perm items := by
      simpa only [decide_not] using List.filter_append_perm (fun x => decide (x ∈ selected)) items
    have hlength : (items.filter fun x => decide (x ∉ selected)).length = n := by
      have hall := hsplit.length_eq
      have hpart := hin.length_eq
      rw [List.length_append] at hall
      omega
    rw [hlength] at hrest
    exact (hin.symm.append hrest).trans hsplit

end Completion
