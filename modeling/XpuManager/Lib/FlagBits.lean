import Mathlib.Data.List.Nodup
import Mathlib.Data.Nat.Bitwise

/-! # The bits of flags

The single flags of a set of flags, the lowest first. -/

namespace FlagBits

variable {w : Nat} {x flags bit : BitVec w} {i j : Nat}

/-! ## The lowest bit -/

/-- Below the lowest bit a number has no bits. -/
theorem toNat_mod_two_pow (hx : x ≠ 0#w) : x.toNat % 2 ^ (x.ctz.toNat + 1) = 2 ^ x.ctz.toNat := by
  refine Nat.eq_of_testBit_eq fun j => ?_
  rw [Nat.testBit_mod_two_pow, BitVec.testBit_toNat, Nat.testBit_two_pow]
  rcases lt_trichotomy j x.ctz.toNat with hlt | rfl | hgt
  · simp [BitVec.getLsbD_false_of_lt_ctz hlt, hlt.ne']
  · simp [BitVec.getLsbD_true_ctz_of_ne_zero hx]
  · simp [hgt.ne, Nat.not_lt.mpr (Nat.succ_le_of_lt hgt)]

theorem toNat_sub_one (hx : x ≠ 0#w) : (x - 1#w).toNat = x.toNat - 1 := by
  have hpos : 0 < x.toNat := Nat.pos_of_ne_zero fun h => hx (BitVec.eq_of_toNat_eq h)
  have hlt := x.isLt
  have hone : (1#w).toNat = 1 := by
    rw [BitVec.toNat_ofNat]
    exact Nat.mod_eq_of_lt (by omega)
  have hle : 1#w ≤ x := BitVec.le_def.mpr (by omega)
  rw [BitVec.toNat_sub_of_le hle, hone]

/-- Taking one away clears the lowest bit and sets the bits below it. -/
theorem getLsbD_sub_one (hx : x ≠ 0#w) (j : Nat) : (x - 1#w).getLsbD j =
    if j < x.ctz.toNat then true else if j = x.ctz.toNat then false else x.getLsbD j := by
  have hmod := toNat_mod_two_pow hx
  have hdecomp : x.toNat =
      2 ^ (x.ctz.toNat + 1) * (x.toNat / 2 ^ (x.ctz.toNat + 1)) + 2 ^ x.ctz.toNat := by
    conv_lhs => rw [← Nat.div_add_mod x.toNat (2 ^ (x.ctz.toNat + 1)), hmod]
  have hpow := Nat.one_le_two_pow (n := x.ctz.toNat)
  have hlt : 2 ^ x.ctz.toNat < 2 ^ (x.ctz.toNat + 1) := Nat.pow_lt_pow_right (by decide) (by omega)
  have hminus : x.toNat - 1 = 2 ^ (x.ctz.toNat + 1) * (x.toNat / 2 ^ (x.ctz.toNat + 1)) +
      (2 ^ x.ctz.toNat - 1) := by
    conv_lhs => rw [hdecomp]
    omega
  rw [← BitVec.testBit_toNat, toNat_sub_one hx, hminus,
    Nat.testBit_two_pow_mul_add _ (by omega : 2 ^ x.ctz.toNat - 1 < 2 ^ (x.ctz.toNat + 1)),
    Nat.testBit_two_pow_sub_one]
  rcases lt_trichotomy j x.ctz.toNat with hj | rfl | hj
  · simp [hj, Nat.lt_succ_of_lt hj]
  · simp
  · rw [if_neg (by omega), if_neg (by omega), if_neg (by omega), ← BitVec.testBit_toNat]
    conv_rhs => rw [hdecomp, Nat.testBit_two_pow_mul_add _ hlt, if_neg (by omega)]

/-- The lowest bit. -/
theorem and_neg_eq_twoPow (hx : x ≠ 0#w) : x &&& -x = BitVec.twoPow w x.ctz.toNat := by
  refine BitVec.eq_of_getLsbD_eq fun j hj => ?_
  rw [BitVec.neg_eq_not_add, ← BitVec.not_sub_one_eq_not_add_one, BitVec.getLsbD_and, BitVec.getLsbD_not,
    getLsbD_sub_one hx, BitVec.getLsbD_twoPow]
  rcases lt_trichotomy j x.ctz.toNat with hlt | rfl | hgt
  · simp [BitVec.getLsbD_false_of_lt_ctz hlt, hlt.ne']
  · simp [BitVec.getLsbD_true_ctz_of_ne_zero hx, hj]
  · simp [hgt.ne, hgt.ne', hgt.not_gt, hj]

/-- What is left without the lowest bit. -/
theorem getLsbD_and_sub_one (hx : x ≠ 0#w) (j : Nat) :
    (x &&& (x - 1#w)).getLsbD j = (x.getLsbD j && j != x.ctz.toNat) := by
  rw [BitVec.getLsbD_and, getLsbD_sub_one hx]
  rcases lt_trichotomy j x.ctz.toNat with hlt | rfl | hgt
  · simp [hlt, hlt.ne]
  · simp
  · simp [hgt.ne', hgt.not_gt]

/-! ## All bits -/

theorem toNat_and_sub_one_lt (hx : x ≠ 0#w) : (x &&& (x - 1#w)).toNat < x.toNat := by
  have hpos : 0 < x.toNat := Nat.pos_of_ne_zero fun h => hx (BitVec.eq_of_toNat_eq h)
  have hle : x.toNat &&& (x - 1#w).toNat ≤ (x - 1#w).toNat := Nat.and_le_right
  rw [toNat_sub_one hx] at hle
  rw [BitVec.toNat_and, toNat_sub_one hx]
  omega

/-- The single flags of a set of flags, from the least significant bit. -/
def flagsToBits (flags : BitVec w) : List (BitVec w) :=
  if _h : flags = 0#w then [] else (flags &&& -flags) :: flagsToBits (flags &&& (flags - 1#w))
termination_by flags.toNat
decreasing_by exact toNat_and_sub_one_lt ‹_›

@[simp] theorem flagsToBits_zero : flagsToBits (0#w) = [] := by
  rw [flagsToBits, dif_pos rfl]

/-- The flags that `flagsToBits` lists are those of the set. -/
theorem mem_flagsToBits :
    bit ∈ flagsToBits flags ↔ ∃ i, flags.getLsbD i = true ∧ bit = BitVec.twoPow w i := by
  induction flags using flagsToBits.induct with
  | case1 => simp
  | case2 flags hflags ih =>
    rw [flagsToBits, dif_neg hflags, List.mem_cons, ih, and_neg_eq_twoPow hflags]
    simp only [getLsbD_and_sub_one hflags, Bool.and_eq_true, bne_iff_ne]
    constructor
    · rintro (rfl | ⟨i, ⟨hi, -⟩, rfl⟩)
      · exact ⟨_, BitVec.getLsbD_true_ctz_of_ne_zero hflags, rfl⟩
      · exact ⟨i, hi, rfl⟩
    · rintro ⟨i, hi, rfl⟩
      by_cases heq : i = flags.ctz.toNat
      · exact .inl (congrArg _ heq)
      · exact .inr ⟨i, ⟨hi, heq⟩, rfl⟩

/-- A set of flags has a flag in common with a single one exactly where it has that one. -/
theorem and_twoPow_ne_zero_iff (hi : i < w) :
    flags &&& BitVec.twoPow w i ≠ 0#w ↔ flags.getLsbD i = true := by
  rw [BitVec.and_twoPow]
  split
  case isTrue h =>
    refine iff_of_true (fun h0 => ?_) h
    have hbit := congrArg (BitVec.getLsbD · i) h0
    simp [hi] at hbit
  case isFalse h => exact iff_of_false (not_not_intro rfl) h

theorem and_ne_zero_iff {mask : BitVec w} :
    flags &&& mask ≠ 0#w ↔ ∃ i, flags.getLsbD i = true ∧ mask.getLsbD i = true := by
  constructor
  · intro hne
    refine ⟨(flags &&& mask).ctz.toNat, ?_⟩
    rw [← Bool.and_eq_true, ← BitVec.getLsbD_and]
    exact BitVec.getLsbD_true_ctz_of_ne_zero hne
  · rintro ⟨i, hi, hmask⟩ hzero
    have hbit := congrArg (BitVec.getLsbD · i) hzero
    simp [hi, hmask] at hbit

/-- A single flag of the set is in another one exactly where the sets have a flag in common. -/
theorem exists_mem_flagsToBits_iff {mask : BitVec w} :
    (∃ bit ∈ flagsToBits flags, mask &&& bit ≠ 0#w) ↔ flags &&& mask ≠ 0#w := by
  rw [and_ne_zero_iff]
  simp only [mem_flagsToBits]
  constructor
  · rintro ⟨_, ⟨i, hi, rfl⟩, hne⟩
    exact ⟨i, hi, (and_twoPow_ne_zero_iff (BitVec.lt_of_getLsbD hi)).mp hne⟩
  · rintro ⟨i, hi, hmask⟩
    exact ⟨_, ⟨i, hi, rfl⟩, (and_twoPow_ne_zero_iff (BitVec.lt_of_getLsbD hi)).mpr hmask⟩

/-- A single flag has no second bit. -/
theorem eq_of_mem_flagsToBits (h : bit ∈ flagsToBits flags) (hi : bit.getLsbD i = true)
    (hj : bit.getLsbD j = true) : i = j := by
  obtain ⟨k, -, rfl⟩ := mem_flagsToBits.mp h
  simp only [BitVec.getLsbD_twoPow, Bool.and_eq_true, decide_eq_true_eq] at hi hj
  exact hi.2.symm.trans hj.2

end FlagBits
