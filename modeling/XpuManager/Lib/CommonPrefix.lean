import Mathlib.Data.List.Basic
import Mathlib.Order.Lattice

/-! # The common prefix of two lists

Its length is symmetric in the lists, and two lists have as much in common as either has with a
third. -/

variable {α : Type} [DecidableEq α]

/-- How many entries two lists have in common at the front. -/
def commonLen : List α → List α → Nat
  | x :: xs, y :: ys => if x = y then commonLen xs ys + 1 else 0
  | _, _ => 0

@[simp] theorem commonLen_nil_right (xs : List α) : commonLen xs [] = 0 := by
  cases xs <;> rfl

/-- Two lists have `n` entries in common exactly when both begin with the same `n`. -/
theorem le_commonLen_iff {n : Nat} {xs ys : List α} :
    n ≤ commonLen xs ys ↔ ∃ zs, zs.length = n ∧ zs <+: xs ∧ zs <+: ys := by
  induction xs generalizing n ys with
  | nil =>
    simp only [commonLen, Nat.le_zero, List.prefix_nil]
    constructor
    · rintro rfl
      exact ⟨[], rfl, rfl, List.nil_prefix⟩
    · rintro ⟨zs, rfl, rfl, -⟩
      rfl
  | cons x xs ih =>
    cases ys with
    | nil =>
      simp only [commonLen_nil_right, Nat.le_zero, List.prefix_nil]
      constructor
      · rintro rfl
        exact ⟨[], rfl, List.nil_prefix, rfl⟩
      · rintro ⟨zs, rfl, -, rfl⟩
        rfl
    | cons y ys =>
      rw [commonLen]
      cases n with
      | zero => exact iff_of_true (Nat.zero_le _) ⟨[], rfl, List.nil_prefix, List.nil_prefix⟩
      | succ n =>
        constructor
        · intro h
          split at h
          case isTrue heq =>
            obtain ⟨zs, hlen, hxs, hys⟩ := ih.mp (Nat.le_of_succ_le_succ h)
            refine ⟨x :: zs, by rw [List.length_cons, hlen], ?_, ?_⟩
            · exact List.cons_prefix_cons.mpr ⟨rfl, hxs⟩
            · exact List.cons_prefix_cons.mpr ⟨heq, hys⟩
          case isFalse => exact absurd h (Nat.not_succ_le_zero n)
        · rintro ⟨zs, hlen, hxs, hys⟩
          obtain ⟨z, zs, rfl⟩ := List.exists_cons_of_length_eq_add_one hlen
          obtain ⟨rfl, hxs'⟩ := List.cons_prefix_cons.mp hxs
          obtain ⟨rfl, hys'⟩ := List.cons_prefix_cons.mp hys
          rw [if_pos rfl]
          exact Nat.succ_le_succ (ih.mpr ⟨zs, Nat.succ.inj hlen, hxs', hys'⟩)

theorem commonLen_comm (xs ys : List α) : commonLen xs ys = commonLen ys xs := by
  refine eq_of_forall_le_iff fun n => ?_
  rw [le_commonLen_iff, le_commonLen_iff]
  simp only [And.comm]

/-- Two lists have as much in common as either has with a third. -/
theorem min_le_commonLen (xs ys zs : List α) :
    min (commonLen xs ys) (commonLen ys zs) ≤ commonLen xs zs := by
  obtain ⟨ps, hps, hpxs, hpys⟩ := le_commonLen_iff.mp (min_le_left (commonLen xs ys) (commonLen ys zs))
  obtain ⟨qs, hqs, hqys, hqzs⟩ := le_commonLen_iff.mp (min_le_right (commonLen xs ys) (commonLen ys zs))
  have heq : ps = qs :=
    (List.prefix_of_prefix_length_le hpys hqys (by omega)).eq_of_length (hps.trans hqs.symm)
  exact le_commonLen_iff.mpr ⟨ps, hps, hpxs, heq ▸ hqzs⟩
