import XpuManager.Lib.Numerals
import XpuManager.Lib.Text

/-! # Names of values of the driver

The names of enumerations and of single flags (`level-zero-go/sysman/zz_*_string.go`), and what is left of
them in small letters. -/

namespace XpuManager

namespace Sysman

/-- `String` of an enumeration: the names of its first values, and that of its last one. -/
def enumString (type : String) (names : List String) (i : UInt32) : String :=
  match names[i.toNat]? with
  | some name => name
  | none => if i = 2147483647 then "FORCE_UINT32" else type ++ "(" ++ toString i.toNat ++ ")"

/-- `String` of single flags, the first of which is 1: the same with no name for 0. -/
def flagString (type : String) (names : List String) (i : UInt32) : String :=
  match i.toNat with
  | 0 => type ++ "(" ++ toString i.toNat ++ ")"
  | n + 1 =>
    match names[n]? with
    | some name => name
    | none => if i = 2147483647 then "FORCE_UINT32" else type ++ "(" ++ toString i.toNat ++ ")"

section

variable {type : String} {names : List String} {i : UInt32}

theorem enumString_of_le (hlength : names.length ≤ i.toNat) (hlast : i ≠ 2147483647) :
    enumString type names i = type ++ "(" ++ toString i.toNat ++ ")" := by
  rw [enumString, List.getElem?_eq_none hlength]
  exact if_neg hlast

theorem flagString_of_lt (hlength : i.toNat = 0 ∨ names.length < i.toNat) (hlast : i ≠ 2147483647) :
    flagString type names i = type ++ "(" ++ toString i.toNat ++ ")" := by
  rw [flagString]
  split
  · rfl
  · rename_i n hn
    rw [List.getElem?_eq_none (by omega)]
    exact if_neg hlast

/-! ## Small letters -/

theorem toList_toLower (s : String) : s.toLower.toList = s.toList.map Char.toLower :=
  String.toList_map

theorem toLower_append (s t : String) : (s ++ t).toLower = s.toLower ++ t.toLower := by
  rw [← String.toList_inj]
  simp [toList_toLower]

theorem toLower_toString (n : Nat) : (toString n).toLower = toString n := by
  rw [← String.toList_inj, toList_toLower, Nat.toString_eq_repr, Nat.toList_repr]
  conv_rhs => rw [← List.map_id (Nat.toDigits 10 n)]
  refine List.map_congr_left fun c hc => ?_
  have hdigit : c.isDigit := Nat.isDigit_of_mem_toDigits (by decide) (by decide) hc
  have hle : c.toNat ≤ 57 := by
    simp only [Char.isDigit, Bool.and_eq_true, decide_eq_true_eq] at hdigit
    exact hdigit.2
  rw [id_eq, ← Char.toNat_inj, Text.toNat_toLower, if_neg (by omega)]

/-- A name that is printed, in small letters. -/
theorem toLower_printed (before after : String) (n : Nat) :
    (before ++ toString n ++ after).toLower = before.toLower ++ toString n ++ after.toLower := by
  rw [toLower_append, toLower_append, toLower_toString]

end

end Sysman

end XpuManager
