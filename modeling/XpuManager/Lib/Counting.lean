import Mathlib.Algebra.BigOperators.Group.List.Basic
import Mathlib.Algebra.Ring.Nat

/-! # Counting along lists

The items of a list that are of one of several kinds, each counted with its kind. -/

namespace Counting

/-- **Elements of one of several kinds** are no more than those of each kind together. -/
theorem length_filter_le_sum {α κ : Type} (l : List α) (kinds : List κ) (isKind : κ → α → Prop)
    [∀ k, DecidablePred (isKind k)] (p : α → Bool)
    (h : ∀ x ∈ l, p x → ∃ k ∈ kinds, isKind k x) :
    (l.filter p).length ≤ (kinds.map fun k => (l.filter fun x => isKind k x).length).sum := by
  induction kinds generalizing p with
  | nil =>
    have hnone : l.filter p = [] := List.filter_eq_nil_iff.mpr fun x hx hp => by
      obtain ⟨k, hk, -⟩ := h x hx hp
      cases hk
    rw [hnone]
    exact Nat.zero_le _
  | cons k kinds ih =>
    have hrest := ih (fun x => p x && !decide (isKind k x)) fun x hx hp => by
      rw [Bool.and_eq_true] at hp
      obtain ⟨k', hk', hkind⟩ := h x hx hp.1
      obtain rfl | hk' := List.mem_cons.mp hk'
      · simp [hkind] at hp
      · exact ⟨k', hk', hkind⟩
    have hsplit : (l.filter p).length ≤ (l.filter fun x => isKind k x).length +
        (l.filter fun x => p x && !decide (isKind k x)).length := by
      clear h hrest ih
      induction l with
      | nil => exact Nat.zero_le _
      | cons x l ih =>
        by_cases hp : p x <;> by_cases hk : isKind k x <;> simp [hp, hk] <;> omega
    rw [List.map_cons, List.sum_cons]
    omega

end Counting
