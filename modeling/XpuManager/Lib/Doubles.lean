import Mathlib.Data.Rat.Floor
import Mathlib.Tactic.Linarith
import XpuManager.Lib.Numerals

/-! # Floating numbers in text

How the standard library of C reads floating numbers: white space and a sign are skipped, and then comes
the longest text that is a number, decimal or hexadecimal, or stands for infinity or for no number.
-/

namespace Doubles

open Numerals

/-- A floating-point number: exact, infinite, or none at all. -/
inductive Double where
  | finite (value : ℚ)
  | infinity (negative : Bool)
  | nan
  deriving DecidableEq, Repr

/-- How doubles round. -/
structure Arithmetic where
  round : ℚ → ℚ
  round_nonneg : ∀ value, 0 ≤ value → 0 ≤ round value
  /-- A number that is out of range, so that its conversion fails. -/
  outOfRange : ℚ → Bool

/-- Nothing is rounded. -/
instance : Inhabited Arithmetic := ⟨⟨id, fun _ h => h, fun _ => false⟩⟩

/-! ## Parts of numbers -/

/-- The digits at the front, and what follows. -/
def spanDigits (base : Nat) (cs : List Char) : List Char × List Char :=
  cs.span fun c => (digit base c).isSome

/-- Digits with at most one point, and at least one digit. -/
def mantissa (base : Nat) (cs : List Char) : Option (ℚ × List Char) :=
  let (whole, rest) := spanDigits base cs
  let (fraction, rest) :=
    match rest with
    | '.' :: rest => spanDigits base rest
    | rest => ([], rest)
  if whole = [] ∧ fraction = [] then none
  else
    some ((ofDigits base 0 (leadingDigits base (whole ++ fraction)) : ℚ) / base ^ fraction.length, rest)

/-- An exponent, if there is one behind its letter. -/
def exponent (letter : Char) (cs : List Char) : ℤ × List Char :=
  match cs with
  | c :: rest =>
    if c.toLower = letter then
      let (negative, digits) := takeSign rest
      let (digits, rest) := spanDigits 10 digits
      if digits = [] then (0, cs)
      else
        let value := ofDigits 10 0 (leadingDigits 10 digits)
        (if negative then -(value : ℤ) else value, rest)
    else (0, cs)
  | [] => (0, [])

/-- A decimal number with its exponent, and what is behind it. -/
def decimal (cs : List Char) : Option (ℚ × List Char) :=
  (mantissa 10 cs).map fun (value, rest) =>
    let (e, rest) := exponent 'e' rest
    (value * 10 ^ e, rest)

/-- A hexadecimal number, and what is behind it. -/
def hexadecimal (cs : List Char) : Option (ℚ × List Char) :=
  match cs with
  | '0' :: x :: cs =>
    if x.toLower = 'x' then
      (mantissa 16 cs).map fun (value, rest) =>
        let (e, rest) := exponent 'p' rest
        (value * 2 ^ e, rest)
    else none
  | _ => none

/-- What follows a word, in letters of any case. -/
def dropWord (word cs : List Char) : Option (List Char) :=
  if (cs.take word.length).map Char.toLower = word then some (cs.drop word.length) else none

/-- What follows `nan` may be a text in parentheses. -/
def dropPayload (cs : List Char) : List Char :=
  match cs with
  | '(' :: payload =>
    match payload.dropWhile fun c => c.isAlphanum || c = '_' with
    | ')' :: rest => rest
    | _ => cs
  | _ => cs

/-! ## Conversions -/

/-- A number without its sign. -/
def unsignedDouble (cs : List Char) : Option (Double × List Char) :=
  match (dropWord "infinity".toList cs).orElse fun _ => dropWord "inf".toList cs with
  | some rest => some (.infinity false, rest)
  | none =>
    match dropWord "nan".toList cs with
    | some rest => some (.nan, dropPayload rest)
    | none =>
      ((hexadecimal cs).orElse fun _ => decimal cs).map fun (value, rest) => (.finite value, rest)

/-- The number with the other sign. -/
def Double.neg : Double → Double
  | finite value => finite (-value)
  | infinity negative => infinity !negative
  | nan => nan

/-- The number that a text starts with, and what follows. -/
def strtod (cs : List Char) : Option (Double × List Char) :=
  let (negative, cs) := takeSign (cs.dropWhile isSpace)
  (unsignedDouble cs).map fun (value, rest) => (if negative then value.neg else value, rest)

namespace Arithmetic

variable (arith : Arithmetic)

/-- A number that is read is rounded. -/
def read : Double → Option Double
  | .finite value => if arith.outOfRange value then none else some (.finite (arith.round value))
  | value => some value

/-- `std::stod`; `none` is an exception. -/
def stod (cs : List Char) : Option Double := (strtod cs).bind fun (value, _) => arith.read value

def mul (factor : ℚ) : Double → Double
  | .finite value => .finite (arith.round (value * factor))
  | value => value

end Arithmetic

/-- `static_cast<uint32_t>`, which truncates; `none` is undefined behaviour. -/
def Double.toUInt32 : Double → Option UInt32
  | finite value =>
    if -1 < value ∧ value < 0x100000000 then some (UInt32.ofNat ⌊value⌋.toNat) else none
  | _ => none

/-- Minus infinity is negative, and what is no number is not. -/
def Double.IsNegative : Double → Prop
  | finite value => value < 0
  | infinity negative => negative
  | nan => False

instance : (value : Double) → Decidable value.IsNegative
  | .finite value => inferInstanceAs (Decidable (value < 0))
  | .infinity negative => inferInstanceAs (Decidable (negative = true))
  | .nan => inferInstanceAs (Decidable False)

theorem toUInt32_eq_some {value : ℚ} {n : UInt32} (h : 0 ≤ value) :
    (Double.finite value).toUInt32 = some n ↔ value < 0x100000000 ∧ (n.toNat : ℤ) = ⌊value⌋ := by
  have hfloor : 0 ≤ ⌊value⌋ := Int.floor_nonneg.mpr h
  rw [Double.toUInt32]
  constructor
  · intro hsome
    split at hsome
    case isFalse => cases hsome
    case isTrue hrange =>
      obtain rfl := Option.some.inj hsome
      have hlt : ⌊value⌋ < 0x100000000 := Int.floor_lt.mpr (by exact_mod_cast hrange.2)
      refine ⟨hrange.2, ?_⟩
      rw [UInt32.toNat_ofNat', Nat.mod_eq_of_lt (by omega)]
      omega
  · rintro ⟨hlt, hn⟩
    rw [if_pos ⟨by linarith, hlt⟩, ← hn, Int.toNat_natCast, UInt32.ofNat_toNat]

theorem toUInt32_eq_none {value : ℚ} (h : 0 ≤ value) :
    (Double.finite value).toUInt32 = none ↔ 0x100000000 ≤ value := by
  rw [Double.toUInt32, ite_eq_right_iff]
  constructor
  · intro hnone
    by_contra hlt
    exact Option.some_ne_none _ (hnone ⟨by linarith, not_le.mp hlt⟩)
  · intro hle hrange
    exact absurd hrange.2 (not_lt.mpr hle)

end Doubles
