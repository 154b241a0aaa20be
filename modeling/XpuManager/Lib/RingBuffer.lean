import Mathlib.Data.List.DropRight
import Mathlib.Data.Nat.ModEq
import Mathlib.Data.Int.ModEq

/-! # Ring buffers

A ring of `size` cells that is written round and round holds the end of everything ever written.
The elements are arbitrary. -/

variable {α : Type}

/-- The ring `buffer` holds the end of `hist`: each of its last `buffer.length` elements stands at
its position modulo the length of the ring. -/
def RingHolds (hist buffer : List α) : Prop :=
  ∀ j < hist.length, hist.length ≤ j + buffer.length →
    buffer[j % buffer.length]? = hist[j]?

/-- Any ring holds the empty history. -/
theorem ringHolds_nil (buffer : List α) : RingHolds [] buffer :=
  fun _ hj => absurd hj (Nat.not_lt_zero _)

/-- Positions less than a round apart are different cells. -/
theorem mod_ne_mod_of_within {size j k : Nat} (hjk : j < k) (hk : k < j + size) :
    j % size ≠ k % size := by
  intro h
  have hdvd : size ∣ k - j := (Nat.modEq_iff_dvd' hjk.le).mp h
  have hle : size ≤ k - j := Nat.le_of_dvd (by omega) hdvd
  omega

/-- **Writing the next element.** It goes to the cell after the last one written, and the ring
holds the longer history. -/
theorem ringHolds_push {hist buffer : List α} (h : RingHolds hist buffer)
    (hpos : 0 < buffer.length) (a : α) :
    RingHolds (hist ++ [a]) (buffer.set (hist.length % buffer.length) a) := by
  intro j hj hfit
  rw [List.length_append, List.length_singleton, List.length_set] at *
  rcases Nat.lt_succ_iff_lt_or_eq.mp hj with hlt | rfl
  · -- an older element: its cell is not the one written
    have hne : hist.length % buffer.length ≠ j % buffer.length :=
      (mod_ne_mod_of_within hlt (by omega)).symm
    rw [List.getElem?_set_ne hne, List.getElem?_append_left hlt]
    exact h j hlt (by omega)
  · rw [List.getElem?_set_self (Nat.mod_lt _ hpos), List.getElem?_concat_length]

/-- The number of cells from `start` up to `stop`, going round a ring of `size` cells. -/
def ringDistance (size start stop : Nat) : Nat :=
  if stop < start then stop + size - start else stop - start

/-- The index behind `n` steps from `a`, for less than a round. -/
theorem add_mod_of_lt {size a n : Nat} (hn : n < size) : (a + n) % size =
    if a % size + n < size then a % size + n else a % size + n - size := by
  have ha : a % size < size := Nat.mod_lt _ (by omega)
  rw [Nat.add_mod, Nat.mod_eq_of_lt hn]
  split
  case isTrue h => exact Nat.mod_eq_of_lt h
  case isFalse h =>
    rw [Nat.mod_eq_sub_mod (by omega)]
    exact Nat.mod_eq_of_lt (by omega)

/-- **Positions less than a round apart.** The distance of their cells is their difference. -/
theorem ringDistance_mod {size a n : Nat} (hn : n < size) :
    ringDistance size (a % size) ((a + n) % size) = n := by
  have ha : a % size < size := Nat.mod_lt _ (by omega)
  rw [add_mod_of_lt hn, ringDistance]
  split <;> split <;> omega

/-- Cells less than a round apart are the same only if nothing lies between them. -/
theorem mod_eq_add_mod_iff {size a n : Nat} (hn : n < size) :
    a % size = (a + n) % size ↔ n = 0 := by
  constructor
  · intro h
    have hdist := ringDistance_mod (a := a) hn
    rw [← h, ringDistance, if_neg (Nat.lt_irrefl _), Nat.sub_self] at hdist
    exact hdist.symm
  · rintro rfl
    rfl

/-- **Reading on from an index.** The cells from `n` elements before the end on are those
elements. -/
theorem RingHolds.read {hist buffer : List α} (h : RingHolds hist buffer) {n : Nat}
    (hn : n ≤ hist.length) (hfit : n ≤ buffer.length) {i : Nat} (hi : i < n) :
    buffer[((hist.length - n) % buffer.length + i) % buffer.length]? = (hist.rtake n)[i]? := by
  rw [Nat.mod_add_mod, h (hist.length - n + i) (by omega) (by omega), List.rtake,
    List.getElem?_drop]
