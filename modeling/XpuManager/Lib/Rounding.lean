import Mathlib.Algebra.Order.Group.Nat

/-! # Rounding to some bits

Numbers with some significant bits, as in floating-point formats. -/

namespace Rounding

/-- The nearest number with `p` significant bits. -/
def roundBits (p n : Nat) : Nat :=
  let unit := 2 ^ (n.log2 + 1 - p)
  let below := n / unit
  if 2 * (n % unit) < unit ∨ 2 * (n % unit) = unit ∧ below % 2 = 0 then below * unit
  else (below + 1) * unit

/-- **A rounded number is greater by a factor of `1 + 2 ^ -p` at most.** -/
theorem roundBits_le (p n : Nat) : 2 ^ p * roundBits p n ≤ (2 ^ p + 1) * n := by
  rw [roundBits]
  have hdiv := Nat.div_add_mod n (2 ^ (n.log2 + 1 - p))
  generalize hk : n.log2 + 1 - p = k at hdiv ⊢
  have hbelow : n / 2 ^ k * 2 ^ k ≤ n := Nat.div_mul_le_self n _
  split
  next => exact Nat.mul_le_mul (Nat.le_succ _) hbelow
  next hup =>
    have hhalf : 2 ^ k ≤ 2 * (n % 2 ^ k) := by omega
    -- where nothing is cut off nothing is rounded up
    obtain ⟨k, rfl⟩ : ∃ j, k = j + 1 := by
      refine Nat.exists_eq_succ_of_ne_zero ?_
      rintro rfl
      simp [Nat.mod_one] at hhalf
    have hn : n ≠ 0 := by
      rintro rfl
      simp at hhalf
    have hbits : 2 ^ p * 2 ^ k ≤ n := by
      rw [← Nat.pow_add]
      have hlog : p + k = n.log2 := by omega
      exact hlog ▸ Nat.log2_self_le hn
    have hround : (n / 2 ^ (k + 1) + 1) * 2 ^ (k + 1) ≤ n + 2 ^ k := by
      rw [Nat.add_mul, Nat.one_mul, Nat.mul_comm]
      omega
    calc 2 ^ p * ((n / 2 ^ (k + 1) + 1) * 2 ^ (k + 1))
        ≤ 2 ^ p * (n + 2 ^ k) := Nat.mul_le_mul_left _ hround
      _ = 2 ^ p * n + 2 ^ p * 2 ^ k := Nat.mul_add _ _ _
      _ ≤ 2 ^ p * n + n := Nat.add_le_add_left hbits _
      _ = (2 ^ p + 1) * n := (Nat.succ_mul _ _).symm

end Rounding
