import Mathlib.Data.List.DropRight
import Mathlib.Data.Char

/-! # Texts

A text is a list of characters. Only the letters of ASCII have two cases, and only spaces and tabs
are blanks. -/

abbrev Text := List Char

namespace Text

instance : LawfulBEq Text := inferInstance

/-- The text in small letters. -/
def lower (text : Text) : Text := text.map Char.toLower

/-- A space or a tab. -/
def isBlank (c : Char) : Bool := c == ' ' || c == '\t'

/-- The text without the blanks at its ends. -/
def trim (text : Text) : Text := (text.dropWhile isBlank).rdropWhile isBlank

section

variable {c d : Char} {text other : Text}

/-! ## One character -/

theorem toNat_toLower (c : Char) :
    c.toLower.toNat = if 65 ≤ c.toNat ∧ c.toNat ≤ 90 then c.toNat + 32 else c.toNat := by
  have hcond : (c.val ≥ 'A'.val ∧ c.val ≤ 'Z'.val) ↔ (65 ≤ c.toNat ∧ c.toNat ≤ 90) := Iff.rfl
  delta Char.toLower
  split
  case isTrue h =>
    have hbounds := hcond.mp h
    rw [if_pos hbounds]
    have hval : (c.val + ('a'.val - 'A'.val)).toNat = c.toNat + 32 := by
      rw [UInt32.toNat_add]
      have : ('a'.val - 'A'.val).toNat = 32 := by decide
      have : c.val.toNat = c.toNat := rfl
      omega
    exact hval
  case isFalse h => rw [if_neg (fun hbounds => h (hcond.mpr hbounds))]

theorem toNat_toUpper (c : Char) :
    c.toUpper.toNat = if 97 ≤ c.toNat ∧ c.toNat ≤ 122 then c.toNat - 32 else c.toNat := by
  have hcond : (c.val ≥ 'a'.val ∧ c.val ≤ 'z'.val) ↔ (97 ≤ c.toNat ∧ c.toNat ≤ 122) := Iff.rfl
  delta Char.toUpper
  split
  case isTrue h =>
    have hbounds := hcond.mp h
    rw [if_pos hbounds]
    have hval : (c.val + ('A'.val - 'a'.val)).toNat = c.toNat - 32 := by
      rw [UInt32.toNat_add]
      have : ('A'.val - 'a'.val).toNat = 4294967264 := by decide
      have : c.val.toNat = c.toNat := rfl
      omega
    exact hval
  case isFalse h => rw [if_neg (fun hbounds => h (hcond.mpr hbounds))]

@[simp] theorem toLower_toLower (c : Char) : c.toLower.toLower = c.toLower := by
  rw [← Char.toNat_inj, toNat_toLower c.toLower, toNat_toLower c]
  split_ifs <;> omega

/-- Folding to capitals and folding to small letters tell the same characters apart. -/
theorem toUpper_eq_toUpper_iff : c.toUpper = d.toUpper ↔ c.toLower = d.toLower := by
  rw [← Char.toNat_inj, ← Char.toNat_inj, toNat_toUpper, toNat_toUpper, toNat_toLower, toNat_toLower]
  split_ifs <;> omega

/-- Small letters leave a character that is no letter as it is, and make none. -/
theorem toLower_eq_iff (hd : d.toNat < 65 ∨ 122 < d.toNat) : c.toLower = d ↔ c = d := by
  rw [← Char.toNat_inj, ← Char.toNat_inj, toNat_toLower]
  split <;> omega

@[simp] theorem isBlank_toLower (c : Char) : isBlank c.toLower = isBlank c := by
  have hspace : c.toLower = ' ' ↔ c = ' ' := toLower_eq_iff (by decide)
  have htab : c.toLower = '\t' ↔ c = '\t' := toLower_eq_iff (by decide)
  rw [Bool.eq_iff_iff]
  simp only [isBlank, Bool.or_eq_true, beq_iff_eq, hspace, htab]

/-! ## Texts in small letters -/

@[simp] theorem length_lower : text.lower.length = text.length := List.length_map _

@[simp] theorem lower_lower : text.lower.lower = text.lower := by
  simp [lower]

/-- A character that is no letter is in a text or is not, whatever the case of the letters. -/
theorem mem_lower_iff (hd : d.toNat < 65 ∨ 122 < d.toNat) : d ∈ text.lower ↔ d ∈ text := by
  rw [lower, List.mem_map]
  simp only [toLower_eq_iff hd, exists_eq_right]

theorem dropWhile_lower : text.lower.dropWhile isBlank = lower (text.dropWhile isBlank) := by
  induction text with
  | nil => rfl
  | cons c text ih =>
    simp only [lower, List.map_cons, List.dropWhile_cons, isBlank_toLower]
    split
    · exact ih
    · rfl

/-- Trimming and lowering commute. -/
theorem trim_lower : trim text.lower = (trim text).lower := by
  rw [trim, trim, dropWhile_lower]
  generalize text.dropWhile isBlank = rest
  have hreverse : (lower rest).reverse = lower rest.reverse := (List.map_reverse ..).symm
  rw [List.rdropWhile, List.rdropWhile, hreverse, dropWhile_lower]
  exact (List.map_reverse ..).symm

/-- The second trim finds nothing. -/
@[simp] theorem trim_trim : trim (trim text) = trim text := by
  have hhead : (trim text).dropWhile isBlank = trim text := by
    have hprefix : trim text <+: text.dropWhile isBlank := List.rdropWhile_prefix ..
    rcases hrest : trim text with _ | ⟨c, rest⟩
    · rfl
    · rw [hrest] at hprefix
      obtain ⟨tail, htail⟩ := hprefix
      have hblank := List.head?_dropWhile_not isBlank text
      rw [← htail] at hblank
      exact List.dropWhile_cons_of_neg (by simpa using hblank)
  rw [trim, hhead]
  exact List.rdropWhile_idempotent isBlank _

/-! ## Separators -/

/-- No piece has a separator in it. -/
theorem not_mem_of_mem_splitOn {piece : Text} (h : piece ∈ text.splitOn c) : c ∉ piece := by
  induction text generalizing piece with
  | nil =>
    rw [List.splitOn_nil, List.mem_singleton] at h
    simp [h]
  | cons d text ih =>
    rw [List.splitOn_cons_eq_if_modifyHead] at h
    split at h
    case isTrue =>
      rcases List.mem_cons.mp h with rfl | h
      · exact List.not_mem_nil
      · exact ih h
    case isFalse hd =>
      obtain ⟨first, pieces, hsplit⟩ := List.exists_cons_of_ne_nil (List.splitOn_ne_nil c text)
      rw [hsplit] at h ih
      rcases List.mem_cons.mp h with rfl | h
      · have hne : c ≠ d := fun heq => hd (beq_iff_eq.mpr heq.symm)
        exact List.not_mem_cons_of_ne_of_not_mem hne (ih List.mem_cons_self)
      · exact ih (List.mem_cons_of_mem _ h)

/-- The first piece is what comes before the first separator. -/
theorem splitOn_eq_takeWhile :
    text.splitOn c =
      match text.dropWhile (· ≠ c) with
      | [] => [text.takeWhile (· ≠ c)]
      | _ :: rest => text.takeWhile (· ≠ c) :: rest.splitOn c := by
  have hfirst : c ∉ text.takeWhile (· ≠ c) := fun h => by
    simpa using List.mem_takeWhile_imp h
  have htext : text.takeWhile (· ≠ c) ++ text.dropWhile (· ≠ c) = text :=
    List.takeWhile_append_dropWhile
  cases hrest : text.dropWhile (· ≠ c) with
  | nil =>
    rw [hrest, List.append_nil] at htext
    rw [htext]
    exact List.splitOn_eq_singleton (htext ▸ hfirst)
  | cons d rest =>
    have hd : d = c := by
      have hhead := List.head?_dropWhile_not (fun d => decide (d ≠ c)) text
      rw [hrest] at hhead
      simpa using hhead
    subst hd
    rw [hrest] at htext
    conv_lhs => rw [← htext]
    exact List.splitOn_append_cons_self_of_not_mem hfirst rest

end

end Text
