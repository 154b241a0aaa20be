import Mathlib.Algebra.Group.Nat.Defs
import Mathlib.Data.List.GetD
import Mathlib.Tactic.Common

/-! # Byte buffers and little-endian fields

A `Buf n` has exactly `n` bytes. It is read with `byte` and written with `overlay`; bytes that would
fall outside the buffer are dropped, so callers check the bound first. `leBytes` and `ofLeBytes` are
the little-endian encoding of a number in a fixed number of bytes. -/

/-- A buffer of `n` bytes. -/
@[ext] structure Buf (n : Nat) where
  /-- The byte at an index. -/
  get : Fin n → UInt8

namespace Buf

variable {n : Nat}

/-- The buffer of zeros. -/
def zero (n : Nat) : Buf n := ⟨fun _ => 0⟩

/-- The byte at position `i`; positions past the end read as zero. -/
def byte (b : Buf n) (i : Nat) : UInt8 := if h : i < n then b.get ⟨i, h⟩ else 0

/-- Copy `bs` into the buffer from position `off` on. -/
def overlay (b : Buf n) (off : Nat) (bs : List UInt8) : Buf n where
  get i := if off ≤ i.val ∧ i.val < off + bs.length then bs.getD (i.val - off) 0 else b.get i

/-- The `len` bytes from position `off` on. -/
def slice (b : Buf n) (off len : Nat) : List UInt8 := (List.range len).map fun k => b.byte (off + k)

/-- Set one byte. -/
def setByte (b : Buf n) (i : Nat) (v : UInt8) : Buf n := b.overlay i [v]

@[simp] theorem byte_zero (i : Nat) : (zero n).byte i = 0 := by
  simp only [byte, zero]
  split <;> rfl

/-- A byte inside the copied range is the copied byte. -/
theorem byte_overlay_of_mem {b : Buf n} {off i : Nat} {bs : List UInt8} (hi : i < n)
    (h₁ : off ≤ i) (h₂ : i < off + bs.length) : (b.overlay off bs).byte i = bs.getD (i - off) 0 := by
  simp only [byte, overlay, dif_pos hi]
  rw [if_pos ⟨h₁, h₂⟩]

/-- A byte before the copied range is unchanged. -/
theorem byte_overlay_of_lt {b : Buf n} {off i : Nat} {bs : List UInt8} (h : i < off) :
    (b.overlay off bs).byte i = b.byte i := by
  have hc : ¬(off ≤ i ∧ i < off + bs.length) := fun hc => absurd hc.1 (Nat.not_le.mpr h)
  simp only [byte, overlay, if_neg hc]

/-- A byte after the copied range is unchanged. -/
theorem byte_overlay_of_ge {b : Buf n} {off i : Nat} {bs : List UInt8}
    (h : off + bs.length ≤ i) : (b.overlay off bs).byte i = b.byte i := by
  have hc : ¬(off ≤ i ∧ i < off + bs.length) := fun hc => absurd hc.2 (Nat.not_lt.mpr h)
  simp only [byte, overlay, if_neg hc]

@[simp] theorem overlay_nil (b : Buf n) (off : Nat) : b.overlay off [] = b := by
  ext i
  simp only [overlay, List.length_nil]
  rw [if_neg (by omega)]

@[simp] theorem byte_setByte_self {b : Buf n} {i : Nat} {v : UInt8} (hi : i < n) :
    (b.setByte i v).byte i = v := by
  rw [setByte, byte_overlay_of_mem hi (Nat.le_refl _) (by simp)]
  simp

@[simp] theorem byte_setByte_of_ne {b : Buf n} {i j : Nat} {v : UInt8} (h : i ≠ j) :
    (b.setByte i v).byte j = b.byte j := by
  rcases Nat.lt_or_gt_of_ne h with hij | hji
  · exact byte_overlay_of_ge hij
  · exact byte_overlay_of_lt hji

@[simp] theorem length_slice (b : Buf n) (off len : Nat) : (b.slice off len).length = len := by
  simp [slice]

@[simp] theorem getElem_slice (b : Buf n) (off len k : Nat) (h : k < (b.slice off len).length) :
    (b.slice off len)[k] = b.byte (off + k) := by
  simp [slice]

/-- A byte of a slice, zero past its end. -/
theorem getD_slice (b : Buf n) (off len k : Nat) :
    (b.slice off len).getD k 0 = if k < len then b.byte (off + k) else 0 := by
  by_cases h : k < len
  · rw [if_pos h, List.getD_eq_getElem _ _ (by simpa using h), getElem_slice]
  · rw [if_neg h, List.getD_eq_default _ _ (by simpa using h)]

/-- Slices agree when the buffers agree on the range. -/
theorem slice_congr {b c : Buf n} {off len : Nat}
    (h : ∀ k < len, b.byte (off + k) = c.byte (off + k)) : b.slice off len = c.slice off len := by
  simp only [slice]
  exact List.map_congr_left fun k hk => h k (List.mem_range.mp hk)

/-- A slice that starts where bytes were copied starts with those bytes. -/
theorem slice_overlay {b : Buf n} {off : Nat} {bs : List UInt8} (h : off + bs.length ≤ n) :
    (b.overlay off bs).slice off bs.length = bs := by
  refine List.ext_getElem (by simp) fun k hk hk' => ?_
  rw [getElem_slice, byte_overlay_of_mem (by omega) (Nat.le_add_right _ _) (by omega)]
  simp [hk']

/-- A slice splits at any point. -/
theorem slice_add (b : Buf n) (off k l : Nat) :
    b.slice off (k + l) = b.slice off k ++ b.slice (off + k) l := by
  simp [slice, List.range_add, Nat.add_assoc, Function.comp_def]

/-- What was copied into a buffer, and what lies behind it. -/
theorem slice_overlay_add {b : Buf n} {off : Nat} {bs : List UInt8} (h : off + bs.length ≤ n)
    (k : Nat) : (b.overlay off bs).slice off (bs.length + k) =
      bs ++ b.slice (off + bs.length) k := by
  rw [slice_add, slice_overlay h]
  congr 1
  exact slice_congr fun j _ => byte_overlay_of_ge (by omega)

/-- A part of a slice is a slice. -/
theorem take_drop_slice {b : Buf n} {off len i k : Nat} (h : i + k ≤ len) :
    ((b.slice off len).drop i).take k = b.slice (off + i) k := by
  obtain ⟨m, rfl⟩ := Nat.exists_eq_add_of_le h
  rw [Nat.add_assoc, slice_add, List.drop_left' (length_slice _ _ _), slice_add,
    List.take_left' (length_slice _ _ _)]

end Buf

/-! ## Little-endian fields -/

/-- The low `k` bytes of `x`, least significant first. -/
def leBytes : Nat → Nat → List UInt8
  | 0, _ => []
  | k + 1, x => UInt8.ofNat x :: leBytes k (x / 256)

/-- The number whose little-endian bytes are given. -/
def ofLeBytes : List UInt8 → Nat
  | [] => 0
  | b :: bs => b.toNat + 256 * ofLeBytes bs

@[simp] theorem length_leBytes (k x : Nat) : (leBytes k x).length = k := by
  induction k generalizing x with
  | zero => rfl
  | succ k ih => rw [leBytes, List.length_cons, ih]

/-- **Round trip.** Decoding the `k`-byte encoding gives the number back modulo `256 ^ k`. -/
theorem ofLeBytes_leBytes (k x : Nat) : ofLeBytes (leBytes k x) = x % 256 ^ k := by
  induction k generalizing x with
  | zero => rw [leBytes, ofLeBytes, Nat.pow_zero, Nat.mod_one]
  | succ k ih =>
    have hx : (UInt8.ofNat x).toNat = x % 256 := UInt8.toNat_ofNat'
    rw [leBytes, ofLeBytes, ih, hx, Nat.pow_succ', Nat.mod_mul]

/-- A `k`-byte field holds a number below `256 ^ k`. -/
theorem ofLeBytes_lt (bs : List UInt8) : ofLeBytes bs < 256 ^ bs.length := by
  induction bs with
  | nil => exact Nat.one_pos
  | cons b bs ih =>
    have hb := b.toNat_lt
    rw [ofLeBytes, List.length_cons, Nat.pow_succ']
    omega

/-- The bytes of a field are the encoding of the number it holds. -/
theorem leBytes_ofLeBytes (bs : List UInt8) : leBytes bs.length (ofLeBytes bs) = bs := by
  induction bs with
  | nil => rfl
  | cons b bs ih =>
    have hb := b.toNat_lt
    have hlow : UInt8.ofNat (b.toNat + 256 * ofLeBytes bs) = b := by
      apply UInt8.toNat.inj
      rw [UInt8.toNat_ofNat']
      omega
    have hhigh : (b.toNat + 256 * ofLeBytes bs) / 256 = ofLeBytes bs := by omega
    rw [ofLeBytes, List.length_cons, leBytes, hlow, hhigh, ih]

/-- A 16-bit number from its bytes. -/
theorem uint16_ofLeBytes (v : UInt16) : UInt16.ofNat (ofLeBytes (leBytes 2 v.toNat)) = v := by
  have hlt : v.toNat < 256 ^ 2 := v.toNat_lt
  rw [ofLeBytes_leBytes, Nat.mod_eq_of_lt hlt, UInt16.ofNat_toNat]

/-- A 32-bit number from its bytes. -/
theorem uint32_ofLeBytes (v : UInt32) : UInt32.ofNat (ofLeBytes (leBytes 4 v.toNat)) = v := by
  have hlt : v.toNat < 256 ^ 4 := v.toNat_lt
  rw [ofLeBytes_leBytes, Nat.mod_eq_of_lt hlt, UInt32.ofNat_toNat]
