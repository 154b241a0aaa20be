import Mathlib.Algebra.GroupWithZero.Idempotent
import Mathlib.Algebra.Order.BigOperators.Group.Finset
import Mathlib.Algebra.BigOperators.Ring.Finset
import Mathlib.Algebra.Order.Field.Basic

/-! # Weighted means

The mean of some values, each counted with a weight, lies between the bounds of the values. The weights
may be left out of a sum where they are 0 or 1. -/

namespace WeightedMean

variable {ι K : Type*} [Field K] [LinearOrder K] [IsStrictOrderedRing K]

/-- The mean of values with weights. -/
def weightedMean (s : Finset ι) (weight value : ι → K) : K :=
  (∑ i ∈ s, weight i * value i) / ∑ i ∈ s, weight i

variable {s : Finset ι} {weight value : ι → K} {bound : K}

/-- A weighted mean is at least what all values are. -/
theorem le_weightedMean (hweight : ∀ i ∈ s, 0 ≤ weight i) (hpos : 0 < ∑ i ∈ s, weight i)
    (h : ∀ i ∈ s, bound ≤ value i) : bound ≤ weightedMean s weight value := by
  rw [weightedMean, le_div_iff₀ hpos, mul_comm, Finset.sum_mul]
  exact Finset.sum_le_sum fun i hi => mul_le_mul_of_nonneg_left (h i hi) (hweight i hi)

/-- A weighted mean is at most what all values are. -/
theorem weightedMean_le (hweight : ∀ i ∈ s, 0 ≤ weight i) (hpos : 0 < ∑ i ∈ s, weight i)
    (h : ∀ i ∈ s, value i ≤ bound) : weightedMean s weight value ≤ bound := by
  rw [weightedMean, div_le_iff₀ hpos, mul_comm, Finset.sum_mul]
  exact Finset.sum_le_sum fun i hi => mul_le_mul_of_nonneg_left (h i hi) (hweight i hi)

/-- The sum of whole numbers is that of their squares where all are 0 or 1. -/
theorem sum_eq_sum_sq_iff {count : ι → ℕ} :
    ∑ i ∈ s, count i = ∑ i ∈ s, count i * count i ↔ ∀ i ∈ s, count i = 0 ∨ count i = 1 := by
  rw [Finset.sum_eq_sum_iff_of_le fun i _ => Nat.le_mul_self (count i)]
  refine forall₂_congr fun i _ => ?_
  exact eq_comm.trans IsIdempotentElem.iff_eq_zero_or_one

/-- With the weights 0 and 1 a sum is the weighted one where the values without weight add up to 0. -/
theorem sum_eq_sum_mul_iff [DecidableEq K] (h : ∀ i ∈ s, weight i = 0 ∨ weight i = 1) :
    ∑ i ∈ s, value i = ∑ i ∈ s, weight i * value i ↔ ∑ i ∈ s with weight i = 0, value i = 0 := by
  rw [← sub_eq_zero, ← Finset.sum_sub_distrib, Finset.sum_filter]
  refine Eq.congr_left (Finset.sum_congr rfl fun i hi => ?_)
  rcases h i hi with hzero | hone
  · rw [hzero, zero_mul, sub_zero, if_pos rfl]
  · rw [hone, one_mul, sub_self, if_neg one_ne_zero]

end WeightedMean
