import Mathlib.Data.List.Basic
import Mathlib.Data.List.Range
import Mathlib.Dynamics.PeriodicPts.Defs

/-! # Cyclic redundancy checks, bit by bit

The register of a CRC of any width takes a message bit by bit, the highest bit of a word first. The
bit that is shifted out and the message's bit together say whether the polynomial is added. -/

namespace Crc

variable {w : Nat} {poly c c' d : BitVec w} {b : Bool} {bits before after : List Bool}

/-- The register after another bit of the message. -/
def feedBit (poly c : BitVec w) (b : Bool) : BitVec w :=
  if c.msb ^^ b then (c <<< 1) ^^^ poly else c <<< 1

/-- The register after a message. -/
def feed (poly c : BitVec w) (bits : List Bool) : BitVec w := bits.foldl (feedBit poly) c

@[simp] theorem feed_nil : feed poly c [] = c := rfl

@[simp] theorem feed_cons : feed poly c (b :: bits) = feed poly (feedBit poly c b) bits := rfl

theorem feed_append : feed poly c (before ++ after) = feed poly (feed poly c before) after :=
  List.foldl_append

/-! ## Changes of the message -/

/-- The lowest bit of the register says whether the polynomial was added. -/
theorem getLsbD_zero_feedBit (hpoly : poly.getLsbD 0 = true) :
    (feedBit poly c b).getLsbD 0 = (c.msb ^^ b) := by
  have hshift : (c <<< 1).getLsbD 0 = false := by simp
  unfold feedBit
  split
  case isTrue h => rw [BitVec.getLsbD_xor, hshift, hpoly, h]; rfl
  case isFalse h => rw [hshift, Bool.eq_false_iff.mpr h]

/-- Words with the same highest bit that are the same once it is shifted out. -/
theorem eq_of_shiftLeft_one (hmsb : c.msb = c'.msb) (h : c <<< 1 = c' <<< 1) : c = c' := by
  refine BitVec.eq_of_getMsbD_eq fun i hi => ?_
  cases i with
  | zero => exact hmsb
  | succ i =>
    have hbit := congrArg (fun x => x.getMsbD i) h
    simpa [BitVec.getMsbD_shiftLeft, Nat.add_comm] using hbit

/-- One bit loses nothing of the remainder. -/
theorem feedBit_injective (hpoly : poly.getLsbD 0 = true) (b : Bool) :
    Function.Injective fun c => feedBit poly c b := by
  intro c c' h
  change feedBit poly c b = feedBit poly c' b at h
  have hlow := congrArg (fun x => x.getLsbD 0) h
  simp only [getLsbD_zero_feedBit hpoly] at hlow
  have hmsb : c.msb = c'.msb := Bool.xor_left_inj.mp hlow
  refine eq_of_shiftLeft_one hmsb ?_
  unfold feedBit at h
  rw [hmsb] at h
  split at h
  case isTrue => exact (BitVec.xor_left_inj poly).mp h
  case isFalse => exact h

/-- **Different registers stay different**, whatever follows. -/
theorem feed_injective (hpoly : poly.getLsbD 0 = true) (bits : List Bool) :
    Function.Injective fun c => feed poly c bits := by
  induction bits with
  | nil => exact fun _ _ h => h
  | cons b bits ih => exact fun _ _ h => feedBit_injective hpoly b (ih h)

/-- **Another bit leads to another register.** -/
theorem feed_flip (hpoly : poly.getLsbD 0 = true) (c : BitVec w) (before after : List Bool) (b : Bool) :
    feed poly c (before ++ (!b) :: after) ≠ feed poly c (before ++ b :: after) := by
  intro h
  rw [feed_append, feed_append, feed_cons, feed_cons] at h
  have hbit := congrArg (fun x => x.getLsbD 0) (feed_injective hpoly after h)
  simp only [getLsbD_zero_feedBit hpoly] at hbit
  have hnot : (!b) = b := Bool.xor_right_inj.mp hbit
  cases b <;> cases hnot

/-! ## Whole words -/

/-- The highest bits of a word, the highest first. -/
def bitsOf (n : Nat) (d : BitVec w) : List Bool := (List.range n).map d.getMsbD

theorem bitsOf_succ (n : Nat) (d : BitVec w) : bitsOf (n + 1) d = d.msb :: bitsOf n (d <<< 1) := by
  rw [bitsOf, List.range_succ_eq_map, List.map_cons, List.map_map, bitsOf]
  congr 1
  refine List.map_congr_left fun i hi => ?_
  rw [BitVec.getMsbD_shiftLeft]
  rfl

@[simp] theorem length_bitsOf (n : Nat) (d : BitVec w) : (bitsOf n d).length = n := by
  simp [bitsOf]

@[simp] theorem getElem_bitsOf (n : Nat) (d : BitVec w) (i : Nat) (h : i < (bitsOf n d).length) :
    (bitsOf n d)[i] = d.getMsbD i := by
  simp [bitsOf]

/-- Changing one bit of a word changes one of its bits. -/
theorem bitsOf_flip (d : BitVec w) {k : Nat} (hk : k < w) :
    bitsOf w (d ^^^ 1#w <<< (w - 1 - k)) = (bitsOf w d).set k (!d.getMsbD k) := by
  refine List.ext_getElem (by simp) fun i hi hi' => ?_
  have hw : i < w := by simpa using hi
  have hone : (1#w <<< (w - 1 - k)).getMsbD i = decide (k = i) := by
    rw [BitVec.getMsbD_eq_getLsbD, BitVec.getLsbD_shiftLeft, BitVec.getLsbD_one, Bool.eq_iff_iff]
    simp only [Bool.and_eq_true, decide_eq_true_eq, Bool.not_eq_true', decide_eq_false_iff_not]
    omega
  rw [getElem_bitsOf, BitVec.getMsbD_xor, hone, List.getElem_set, getElem_bitsOf]
  split
  case isTrue h => rw [h, decide_eq_true rfl, Bool.xor_true]
  case isFalse h => rw [decide_eq_false h, Bool.xor_false]

/-- A bit of a word that was added to the register before. -/
theorem feedBit_xor : feedBit poly (c ^^^ d) false = feedBit poly c d.msb ^^^ (d <<< 1) := by
  unfold feedBit
  rw [BitVec.msb_xor, Bool.xor_false, BitVec.shiftLeft_xor_distrib]
  split
  · rw [BitVec.xor_assoc, BitVec.xor_comm (d <<< 1), BitVec.xor_assoc]
  · rfl

/-- Some bits of a word that was added to the register before. -/
theorem feed_xor (n : Nat) : feed poly (c ^^^ d) (List.replicate n false) =
    feed poly c (bitsOf n d) ^^^ (d <<< n) := by
  induction n generalizing c d with
  | zero => rw [List.replicate_zero, feed_nil, BitVec.shiftLeft_zero]; rfl
  | succ n ih =>
    rw [List.replicate_succ, feed_cons, feedBit_xor, ih, bitsOf_succ, feed_cons, Nat.add_comm n 1,
      BitVec.shiftLeft_add]

/-- **A word at once.** Its bits are those that come out of the register it was added to. -/
theorem feed_word (poly c d : BitVec w) :
    feed poly c (bitsOf w d) = feed poly (c ^^^ d) (List.replicate w false) := by
  rw [feed_xor, BitVec.shiftLeft_eq_zero (Nat.le_refl w), BitVec.xor_zero]

/-! ## Zeros -/

/-- A zero adds no polynomial that a sum cancels. -/
theorem feedBit_zero_xor (c d : BitVec w) :
    feedBit poly (c ^^^ d) false = feedBit poly c false ^^^ feedBit poly d false := by
  simp only [feedBit, BitVec.msb_xor, Bool.xor_false, BitVec.shiftLeft_xor_distrib]
  cases c.msb <;> cases d.msb
  case false.false => rfl
  case false.true => exact BitVec.xor_assoc ..
  case true.false =>
    change c <<< 1 ^^^ d <<< 1 ^^^ poly = c <<< 1 ^^^ poly ^^^ d <<< 1
    rw [BitVec.xor_assoc, BitVec.xor_comm (d <<< 1), BitVec.xor_assoc]
  case true.true =>
    change c <<< 1 ^^^ d <<< 1 = c <<< 1 ^^^ poly ^^^ (d <<< 1 ^^^ poly)
    have hcancel : c <<< 1 ^^^ poly ^^^ (d <<< 1 ^^^ poly) =
        c <<< 1 ^^^ d <<< 1 ^^^ (poly ^^^ poly) := by ac_rfl
    rw [hcancel, BitVec.xor_self, BitVec.xor_zero]

theorem feed_zeros_succ (n : Nat) (c : BitVec w) : feed poly c (List.replicate (n + 1) false) =
    feed poly (feedBit poly c false) (List.replicate n false) := rfl

theorem feed_zeros_xor (n : Nat) (c d : BitVec w) : feed poly (c ^^^ d) (List.replicate n false) =
    feed poly c (List.replicate n false) ^^^ feed poly d (List.replicate n false) := by
  induction n generalizing c d with
  | zero => rfl
  | succ n ih => rw [feed_zeros_succ, feed_zeros_succ, feed_zeros_succ, feedBit_zero_xor, ih]

theorem feed_zeros_eq_iterate (n : Nat) (c : BitVec w) :
    feed poly c (List.replicate n false) = (fun c => feedBit poly c false)^[n] c := by
  induction n generalizing c with
  | zero => rfl
  | succ n ih => exact ih _

/-- A register is the sum of its single bits. -/
theorem xor_induction {motive : BitVec w → Prop} (zero : motive 0#w)
    (bit : ∀ i < w, motive (BitVec.twoPow w i))
    (xor : ∀ c d, motive c → motive d → motive (c ^^^ d)) (c : BitVec w) : motive c := by
  -- The induction is on how many of the lowest bits may be set.
  have hlow (k : Nat) (hk : k ≤ w) : ∀ c : BitVec w, (∀ i, k ≤ i → c.getLsbD i = false) → motive c := by
    induction k with
    | zero =>
      intro c hc
      have hzero : c = 0#w := BitVec.eq_of_getLsbD_eq fun i _ => by simp [hc i (Nat.zero_le i)]
      exact hzero ▸ zero
    | succ k ih =>
      intro c hc
      by_cases hbit : c.getLsbD k
      case neg =>
        refine ih (by omega) c fun i hi => ?_
        obtain rfl | hlt := Nat.eq_or_lt_of_le hi
        · exact Bool.eq_false_iff.mpr hbit
        · exact hc i hlt
      case pos =>
        have hrest : motive (c ^^^ BitVec.twoPow w k) := by
          refine ih (by omega) _ fun i hi => ?_
          rw [BitVec.getLsbD_xor, BitVec.getLsbD_twoPow]
          obtain rfl | hlt := Nat.eq_or_lt_of_le hi
          · simp [hbit]; omega
          · simp [hc i hlt]; omega
        have hsum := xor _ _ hrest (bit k (by omega))
        rwa [BitVec.xor_assoc, BitVec.xor_self, BitVec.xor_zero] at hsum
  exact hlow w (Nat.le_refl w) c fun i hi => BitVec.getLsbD_of_ge c i hi

/-- Zeros that leave every single bit alone leave every register alone. -/
theorem feed_zeros_eq_self {n : Nat}
    (h : ∀ i < w, feed poly (BitVec.twoPow w i) (List.replicate n false) = BitVec.twoPow w i)
    (c : BitVec w) : feed poly c (List.replicate n false) = c := by
  induction c using xor_induction with
  | zero =>
    have hsum := @feed_zeros_xor w poly n 0#w 0#w
    rwa [BitVec.xor_self, BitVec.xor_self] at hsum
  | bit i hi => exact h i hi
  | xor c d hc hd => rw [feed_zeros_xor, hc, hd]

/-- **Which registers zeros leave alone.** When some number of zeros leaves all of them alone, a
number without a common divisor leaves only those alone that a single zero does. -/
theorem feed_zeros_eq_self_iff {m n : Nat}
    (hall : ∀ c : BitVec w, feed poly c (List.replicate m false) = c) (hcoprime : n.Coprime m)
    (c : BitVec w) : feed poly c (List.replicate n false) = c ↔ feedBit poly c false = c := by
  have hperiod (k : Nat) : feed poly c (List.replicate k false) = c ↔
      Function.IsPeriodicPt (fun c => feedBit poly c false) k c := by
    rw [feed_zeros_eq_iterate]
    rfl
  constructor
  · intro h
    have hgcd := ((hperiod n).mp h).gcd ((hperiod m).mp (hall c))
    rw [hcoprime] at hgcd
    exact hgcd
  · intro h
    have hfixed : Function.IsFixedPt (fun c => feedBit poly c false) c := h
    exact (hperiod n).mpr (hfixed.isPeriodicPt n)

end Crc
