import Mathlib.Algebra.Order.Ring.Nat
import Mathlib.Data.Nat.Notation
import Mathlib.Data.List.Basic

/-! # Numbers in text

How the standard library of C reads numbers: white space and a sign are skipped, then come as many
digits as there are, and what follows them is not looked at. -/

namespace Numerals

/-- The white space of the C locale. -/
def isSpace (c : Char) : Bool := " \t\n\x0b\x0c\r".toList.contains c

/-- The value of a digit. -/
def digit (base : Nat) (c : Char) : Option Nat :=
  if c.isDigit then Option.guard (· < base) (c.toNat - '0'.toNat)
  else if 'a' ≤ c ∧ c ≤ 'z' then Option.guard (· < base) (c.toNat - 'a'.toNat + 10)
  else if 'A' ≤ c ∧ c ≤ 'Z' then Option.guard (· < base) (c.toNat - 'A'.toNat + 10)
  else none

/-- The values of the digits at the front. -/
def leadingDigits (base : Nat) : List Char → List Nat
  | [] => []
  | c :: cs =>
    match digit base c with
    | some d => d :: leadingDigits base cs
    | none => []

/-- The number that digits stand for, behind others with the value `v`. -/
def ofDigits (base v : Nat) (ds : List Nat) : Nat := ds.foldl (fun v d => base * v + d) v

/-- A sign at the front; `true` is minus. -/
def takeSign : List Char → Bool × List Char
  | '-' :: cs => (true, cs)
  | '+' :: cs => (false, cs)
  | cs => (false, cs)

/-- A hexadecimal number may begin with `0x`, if a digit follows. -/
def dropPrefix (base : Nat) : List Char → List Char
  | '0' :: x :: c :: cs =>
    if base = 16 ∧ (x = 'x' ∨ x = 'X') ∧ (digit 16 c).isSome then c :: cs else '0' :: x :: c :: cs
  | cs => cs

/-- The number that a text starts with, if it starts with one. -/
def parseInt (base : Nat) (s : String) : Option Int :=
  let (negative, cs) := takeSign (s.toList.dropWhile isSpace)
  match leadingDigits base (dropPrefix base cs) with
  | [] => none
  | ds => some (if negative then -(ofDigits base 0 ds) else ofDigits base 0 ds)

/-- `std::stoul`, which counts a negative number from the top; `none` is an exception. -/
def stoul (base : Nat) (s : String) : Option UInt64 :=
  match parseInt base s with
  | none => none
  | some i => if i.natAbs < UInt64.size then some (UInt64.ofInt i) else none

/-- `std::stoi` for 32-bit integers; `none` is an exception. -/
def stoi (s : String) : Option Int :=
  match parseInt 10 s with
  | none => none
  | some i => if -0x80000000 ≤ i ∧ i < 0x80000000 then some i else none

/-- `std::from_chars` for 32-bit integers, which skips no white space and no plus; `none` is an error. -/
def fromChars (cs : List Char) : Option Int :=
  let ds := leadingDigits 10 (if cs.head? = some '-' then cs.tail else cs)
  let value : Int := if cs.head? = some '-' then -(ofDigits 10 0 ds) else ofDigits 10 0 ds
  if ds ≠ [] ∧ -0x80000000 ≤ value ∧ value < 0x80000000 then some value else none

/-! ## Printed numbers -/

theorem digit_of_isDigit {c : Char} (h : c.isDigit) : digit 10 c = some (c.toNat - '0'.toNat) := by
  have hlt : c.toNat - '0'.toNat < 10 := by
    have hle : c.toNat ≤ '9'.toNat := by
      simp only [Char.isDigit, Bool.and_eq_true, decide_eq_true_eq] at h
      exact h.2
    have hzero : '0'.toNat = 48 := rfl
    have hnine : '9'.toNat = 57 := rfl
    omega
  rw [digit, if_pos h]
  exact if_pos (decide_eq_true hlt)

theorem ofDigits_leadingDigits {cs : List Char} (h : ∀ c ∈ cs, c.isDigit) (v : Nat) :
    ofDigits 10 v (leadingDigits 10 cs) = Nat.ofDigitChars 10 cs v := by
  induction cs generalizing v with
  | nil => rw [Nat.ofDigitChars_nil]; rfl
  | cons c cs ih =>
    rw [leadingDigits, digit_of_isDigit (h c List.mem_cons_self), Nat.ofDigitChars_cons,
      ← ih fun d hd => h d (List.mem_cons_of_mem c hd)]
    rfl

/-- A digit is neither white space nor a sign. -/
theorem not_isSpace_of_isDigit {c : Char} (h : c.isDigit) : isSpace c = false := by
  rw [Bool.eq_false_iff]
  intro hspace
  rw [isSpace, List.contains_iff_mem] at hspace
  have hall : (" \t\n\x0b\x0c\r".toList.all fun d => !d.isDigit) = true := by decide
  have hdigit := List.all_eq_true.mp hall c hspace
  rw [h] at hdigit
  cases hdigit

theorem takeSign_of_isDigit {c : Char} {cs : List Char} (h : c.isDigit) :
    takeSign (c :: cs) = (false, c :: cs) := by
  unfold takeSign
  split
  case h_1 _ heq =>
    obtain ⟨rfl, -⟩ := List.cons.inj heq
    cases h
  case h_2 _ heq =>
    obtain ⟨rfl, -⟩ := List.cons.inj heq
    cases h
  case h_3 => rfl

theorem dropPrefix_ten (cs : List Char) : dropPrefix 10 cs = cs := by
  unfold dropPrefix
  split
  · exact if_neg fun h => absurd h.1 (by decide)
  · rfl

/-- What follows the digits is not looked at. -/
theorem leadingDigits_append {cs rest : List Char} (h : ∀ c ∈ cs, c.isDigit)
    (hrest : ∀ c ∈ rest.head?, digit 10 c = none) :
    leadingDigits 10 (cs ++ rest) = leadingDigits 10 cs := by
  induction cs with
  | nil =>
    cases rest with
    | nil => rfl
    | cons c rest =>
      change leadingDigits 10 (c :: rest) = []
      rw [leadingDigits, hrest c rfl]
  | cons c cs ih =>
    rw [List.cons_append, leadingDigits, leadingDigits, digit_of_isDigit (h c List.mem_cons_self),
      ih fun d hd => h d (List.mem_cons_of_mem c hd)]

/-- **A printed number** is read back, whatever follows it. -/
theorem parseInt_append (n : Nat) {rest : List Char} (hrest : ∀ c ∈ rest.head?, digit 10 c = none) :
    parseInt 10 (String.ofList (Nat.toDigits 10 n ++ rest)) = some (n : Int) := by
  have hdigits : ∀ c ∈ Nat.toDigits 10 n, c.isDigit :=
    fun c hc => Nat.isDigit_of_mem_toDigits (by decide) (by decide) hc
  have hvalue := ofDigits_leadingDigits hdigits 0
  rw [Nat.ofDigitChars_ten_toDigits, ← leadingDigits_append hdigits hrest] at hvalue
  cases hcs : Nat.toDigits 10 n with
  | nil => exact absurd hcs Nat.toDigits_ne_nil
  | cons c cs =>
    rw [hcs] at hdigits hvalue
    have hc := hdigits c List.mem_cons_self
    rw [parseInt, String.toList_ofList, List.cons_append,
      List.dropWhile_cons_of_neg (by rw [not_isSpace_of_isDigit hc]; decide), takeSign_of_isDigit hc]
    dsimp only
    rw [dropPrefix_ten]
    have hds : leadingDigits 10 (c :: (cs ++ rest)) =
        (c.toNat - '0'.toNat) :: leadingDigits 10 (cs ++ rest) := by
      rw [leadingDigits, digit_of_isDigit hc]
    rw [List.cons_append, hds] at hvalue
    rw [hds]
    dsimp only
    rw [hvalue]
    rfl

theorem parseInt_toString (n : Nat) : parseInt 10 (toString n) = some (n : Int) := by
  have hnone : ∀ c ∈ ([] : List Char).head?, digit 10 c = none := nofun
  have hparse := parseInt_append n hnone
  rwa [List.append_nil, ← Nat.toList_repr, String.ofList_toList] at hparse

/-- Different numbers are printed differently. -/
theorem toString_inj {n m : Nat} (h : toString n = toString m) : n = m := by
  have hparse := parseInt_toString n
  rw [h, parseInt_toString m] at hparse
  exact (Int.ofNat.inj (Option.some.inj hparse)).symm

theorem stoi_append {n : Nat} (hn : n < 0x80000000) {rest : List Char}
    (hrest : ∀ c ∈ rest.head?, digit 10 c = none) :
    stoi (String.ofList (Nat.toDigits 10 n ++ rest)) = some (n : Int) := by
  rw [stoi, parseInt_append n hrest]
  exact if_pos ⟨by omega, by omega⟩

theorem stoul_append (v : UInt64) {rest : List Char} (hrest : ∀ c ∈ rest.head?, digit 10 c = none) :
    stoul 10 (String.ofList (Nat.toDigits 10 v.toNat ++ rest)) = some v := by
  have hlt : v.toNat < UInt64.size := v.toNat_lt
  have hmod : ((v.toNat : Int) % 2 ^ 64).toNat = v.toNat := by
    change v.toNat < 2 ^ 64 at hlt
    omega
  rw [stoul, parseInt_append v.toNat hrest]
  dsimp only
  rw [if_pos (by rwa [Int.natAbs_natCast]), UInt64.ofInt, hmod, UInt64.ofNat_toNat]

/-- **Digits alone** are the number that they stand for. -/
theorem parseInt_of_digits {cs : List Char} (hne : cs ≠ []) (h : ∀ c ∈ cs, c.isDigit) :
    parseInt 10 (String.ofList cs) = some (ofDigits 10 0 (leadingDigits 10 cs) : Int) := by
  obtain ⟨c, rest, rfl⟩ := List.exists_cons_of_ne_nil hne
  have hc := h c List.mem_cons_self
  rw [parseInt, String.toList_ofList,
    List.dropWhile_cons_of_neg (by rw [not_isSpace_of_isDigit hc]; decide), takeSign_of_isDigit hc]
  dsimp only
  rw [dropPrefix_ten, leadingDigits, digit_of_isDigit hc]
  rfl

/-- Digits alone are out of range from 2 ^ 64 on. -/
theorem stoul_of_digits {cs : List Char} (hne : cs ≠ []) (h : ∀ c ∈ cs, c.isDigit) :
    stoul 10 (String.ofList cs) =
      if ofDigits 10 0 (leadingDigits 10 cs) < UInt64.size then
        some (UInt64.ofNat (ofDigits 10 0 (leadingDigits 10 cs)))
      else none := by
  rw [stoul, parseInt_of_digits hne h]
  dsimp only
  rw [Int.natAbs_natCast]
  refine ite_congr rfl (fun hlt => ?_) fun _ => rfl
  generalize ofDigits 10 0 (leadingDigits 10 cs) = v at hlt ⊢
  change v < 2 ^ 64 at hlt
  have hmod : ((v : Int) % 2 ^ 64).toNat = v := by omega
  rw [UInt64.ofInt, hmod]

/-! ## The size of numbers -/

theorem digit_lt {base d : Nat} {c : Char} (h : digit base c = some d) : d < base := by
  have hguard : ∀ v : Nat, Option.guard (fun v => decide (v < base)) v = some d → d < base := by
    intro v hv
    obtain ⟨rfl, hlt⟩ := Option.guard_eq_some_iff.mp hv
    exact of_decide_eq_true hlt
  unfold digit at h
  split at h
  · exact hguard _ h
  · split at h
    · exact hguard _ h
    · split at h
      · exact hguard _ h
      · cases h

theorem lt_of_mem_leadingDigits {base d : Nat} {cs : List Char} (h : d ∈ leadingDigits base cs) :
    d < base := by
  induction cs with
  | nil => cases h
  | cons c cs ih =>
    rw [leadingDigits] at h
    split at h
    case h_1 hdigit =>
      obtain rfl | hmem := List.mem_cons.mp h
      · exact digit_lt hdigit
      · exact ih hmem
    case h_2 => cases h

theorem length_leadingDigits_le (base : Nat) (cs : List Char) :
    (leadingDigits base cs).length ≤ cs.length := by
  induction cs with
  | nil => exact Nat.le_refl 0
  | cons c cs ih =>
    rw [leadingDigits]
    split
    · exact Nat.succ_le_succ ih
    · exact Nat.zero_le _

/-- The bound on the value of some digits. -/
theorem ofDigits_lt {base : Nat} {ds : List Nat} (h : ∀ d ∈ ds, d < base) (v : Nat) :
    ofDigits base v ds < (v + 1) * base ^ ds.length := by
  induction ds generalizing v with
  | nil => rw [List.length_nil, Nat.pow_zero, Nat.mul_one]; exact Nat.lt_succ_self v
  | cons d ds ih =>
    have hd : base * v + d + 1 ≤ (v + 1) * base := by
      have hlt := h d List.mem_cons_self
      rw [Nat.add_mul, Nat.mul_comm]
      omega
    calc ofDigits base v (d :: ds)
        = ofDigits base (base * v + d) ds := rfl
      _ < (base * v + d + 1) * base ^ ds.length := ih (fun e he => h e (List.mem_cons_of_mem d he)) _
      _ ≤ (v + 1) * base * base ^ ds.length := Nat.mul_le_mul_right _ hd
      _ = (v + 1) * base ^ (d :: ds).length := by
          rw [List.length_cons, Nat.pow_succ, Nat.mul_assoc, Nat.mul_comm base]

theorem length_takeSign_le (cs : List Char) : (takeSign cs).2.length ≤ cs.length := by
  unfold takeSign
  split
  · exact Nat.le_succ _
  · exact Nat.le_succ _
  · exact Nat.le_refl _

theorem length_dropPrefix_le (base : Nat) (cs : List Char) :
    (dropPrefix base cs).length ≤ cs.length := by
  unfold dropPrefix
  split
  · split
    · exact Nat.le_trans (Nat.le_succ _) (Nat.le_succ _)
    · exact Nat.le_refl _
  · exact Nat.le_refl _

/-- A number is smaller than the length of its text allows. -/
theorem natAbs_parseInt_lt {base : Nat} (hbase : 0 < base) {s : String} {i : Int}
    (h : parseInt base s = some i) : i.natAbs < base ^ s.toList.length := by
  unfold parseInt at h
  dsimp only at h
  have hlen : (leadingDigits base
      (dropPrefix base (takeSign (s.toList.dropWhile isSpace)).2)).length ≤ s.toList.length :=
    calc _ ≤ (dropPrefix base (takeSign (s.toList.dropWhile isSpace)).2).length :=
            length_leadingDigits_le base _
      _ ≤ (takeSign (s.toList.dropWhile isSpace)).2.length := length_dropPrefix_le base _
      _ ≤ (s.toList.dropWhile isSpace).length := length_takeSign_le _
      _ ≤ s.toList.length := (List.dropWhile_sublist _).length_le
  have hdigits : ∀ d ∈ leadingDigits base
      (dropPrefix base (takeSign (s.toList.dropWhile isSpace)).2), d < base :=
    fun d hd => lt_of_mem_leadingDigits hd
  have hvalue := ofDigits_lt hdigits 0
  rw [Nat.zero_add, Nat.one_mul] at hvalue
  have hbound := Nat.lt_of_lt_of_le hvalue (Nat.pow_le_pow_right hbase hlen)
  split at h
  · cases h
  · obtain rfl := Option.some.inj h
    split
    · rwa [Int.natAbs_neg, Int.natAbs_natCast]
    · rwa [Int.natAbs_natCast]

/-! ## Hexadecimal digits -/

/-- A digit is none of the characters that are not. -/
theorem ne_of_digit {base : Nat} {c d : Char} (h : (digit base c).isSome) (hd : digit base d = none) :
    c ≠ d := by
  rintro rfl
  rw [hd] at h
  cases h

theorem not_isSpace_of_hex {c : Char} (h : (digit 16 c).isSome) : isSpace c = false := by
  rw [Bool.eq_false_iff]
  intro hspace
  rw [isSpace, List.contains_iff_mem] at hspace
  have hall : (" \t\n\x0b\x0c\r".toList.all fun d => (digit 16 d).isNone) = true := by decide
  have hnone := List.all_eq_true.mp hall c hspace
  exact ne_of_digit h (Option.isNone_iff_eq_none.mp hnone) rfl

theorem takeSign_of_hex {c : Char} {cs : List Char} (h : (digit 16 c).isSome) :
    takeSign (c :: cs) = (false, c :: cs) := by
  unfold takeSign
  split
  case h_1 _ heq =>
    obtain ⟨rfl, -⟩ := List.cons.inj heq
    cases h
  case h_2 _ heq =>
    obtain ⟨rfl, -⟩ := List.cons.inj heq
    cases h
  case h_3 => rfl

/-- The letter of `0x` is no digit. -/
theorem dropPrefix_of_hex {cs : List Char} (h : ∀ c ∈ cs, (digit 16 c).isSome) :
    dropPrefix 16 cs = cs := by
  unfold dropPrefix
  split
  case h_1 x c cs =>
    have hx := h x (List.mem_cons_of_mem _ List.mem_cons_self)
    refine if_neg fun hprefix => ?_
    obtain rfl | rfl := hprefix.2.1
    · cases hx
    · cases hx
  case h_2 => rfl

/-- **Digits alone** are the number that they stand for. -/
theorem parseInt_of_hex {cs : List Char} (hne : cs ≠ []) (h : ∀ c ∈ cs, (digit 16 c).isSome) :
    parseInt 16 (String.ofList cs) = some (ofDigits 16 0 (leadingDigits 16 cs) : Int) := by
  obtain ⟨c, rest, rfl⟩ := List.exists_cons_of_ne_nil hne
  have hc := h c List.mem_cons_self
  obtain ⟨d, hd⟩ := Option.isSome_iff_exists.mp hc
  rw [parseInt, String.toList_ofList,
    List.dropWhile_cons_of_neg (by rw [not_isSpace_of_hex hc]; decide), takeSign_of_hex hc]
  dsimp only
  rw [dropPrefix_of_hex h, leadingDigits, hd]
  rfl

/-! ## Printed hexadecimal numbers -/

theorem digit_digitChar {d : Nat} (h : d < 16) : digit 16 d.digitChar = some d := by
  have hall : ∀ d < 16, digit 16 (Nat.digitChar d) = some d := by decide
  exact hall d h

theorem leadingDigits_append_singleton {cs : List Char} (hcs : ∀ c ∈ cs, (digit 16 c).isSome) {c : Char}
    {d : Nat} (hc : digit 16 c = some d) :
    leadingDigits 16 (cs ++ [c]) = leadingDigits 16 cs ++ [d] := by
  induction cs with
  | nil =>
    change leadingDigits 16 [c] = [d]
    rw [leadingDigits, hc]
    rfl
  | cons c' cs ih =>
    rw [List.forall_mem_cons] at hcs
    obtain ⟨d', hd'⟩ := Option.isSome_iff_exists.mp hcs.1
    rw [List.cons_append, leadingDigits, leadingDigits, hd', ih hcs.2]
    rfl

/-- **A printed hexadecimal number** has hexadecimal digits, which stand for it. -/
theorem toDigits_sixteen (n : Nat) : (∀ c ∈ Nat.toDigits 16 n, (digit 16 c).isSome) ∧
    ofDigits 16 0 (leadingDigits 16 (Nat.toDigits 16 n)) = n := by
  induction n using Nat.strongRecOn with
  | ind n ih =>
    rw [Nat.toDigits_eq_if (by decide)]
    split
    case isTrue hlt =>
      have hdigit := digit_digitChar hlt
      refine ⟨fun c hc => ?_, ?_⟩
      · rw [List.mem_singleton.mp hc, hdigit]
        rfl
      · rw [leadingDigits, hdigit]
        exact Nat.zero_add n
    case isFalse hge =>
      obtain ⟨hcs, hvalue⟩ := ih (n / 16) (by omega)
      have hdigit := digit_digitChar (Nat.mod_lt n (by decide : 0 < 16))
      refine ⟨fun c hc => ?_, ?_⟩
      · rcases List.mem_append.mp hc with hc | hc
        · exact hcs c hc
        · rw [List.mem_singleton.mp hc, hdigit]
          rfl
      · rw [leadingDigits_append_singleton hcs hdigit, ofDigits, List.foldl_append]
        change 16 * ofDigits 16 0 (leadingDigits 16 (Nat.toDigits 16 (n / 16))) + n % 16 = n
        rw [hvalue]
        exact Nat.div_add_mod n 16

/-- Zeros in front change nothing. -/
theorem ofDigits_leftpad (width : Nat) (cs : List Char) :
    ofDigits 16 0 (leadingDigits 16 (cs.leftpad width '0')) = ofDigits 16 0 (leadingDigits 16 cs) := by
  have hzero : digit 16 '0' = some 0 := by decide
  rw [List.leftpad]
  induction width - cs.length with
  | zero => rfl
  | succ k ih =>
    rw [List.replicate_succ, List.cons_append, leadingDigits, hzero]
    exact ih

end Numerals
