import Mathlib.Data.List.Infix
import Mathlib.Data.List.Forall2

/-! # Patterns with stars

A pattern is a list of items. A star takes any run of characters, every other item takes one
character that it accepts. Items and characters are of any types.

A matcher that walks both lists from the left needs to remember its last star only: an earlier star
never has to take more. What such a matcher knows is the relation `Tracks`; the rules below are its
moves. -/

namespace Glob

variable {α β : Type} (star : β → Bool) (accepts : β → α → Bool)

/-- The text is one that the pattern describes. -/
def Matches : List β → List α → Prop
  | [], text => text = []
  | item :: pattern, text =>
    if star item then ∃ rest ∈ text.tails, Matches pattern rest
    else match text with
      | [] => False
      | char :: rest => accepts item char ∧ Matches pattern rest

/-- The items take the characters one for one. -/
def Taken (items : List β) (chars : List α) : Prop :=
  List.Forall₂ (fun item char => star item = false ∧ accepts item char = true) items chars

/-- No item of the pattern that is left takes the next character, and it is no star. -/
def Stuck (pattern : List β) (char : α) : Prop :=
  ∀ item ∈ pattern.head?, star item = false ∧ accepts item char = false

/-- With `P` and `T` left, and `P₀` and `T₀` left behind the last star when it took nothing yet, the
match of `pattern` with `text` is what `P₀` does with the ends of `T₀`. -/
def Tracks (pattern : List β) (text : List α) (P : List β) (T : List α) :
    Option (List β × List α) → Prop
  | none => Matches star accepts pattern text ↔ Matches star accepts P T
  | some (P₀, T₀) =>
    (∃ items chars, P₀ = items ++ P ∧ T₀ = chars ++ T ∧ Taken star accepts items chars) ∧
      (Matches star accepts pattern text ↔ ∃ rest, rest <:+ T₀ ∧ Matches star accepts P₀ rest)

instance decidableMatches : ∀ pattern text, Decidable (Matches star accepts pattern text)
  | [], text => inferInstanceAs (Decidable (text = []))
  | item :: pattern, text =>
    have := decidableMatches pattern
    match hs : star item, text with
    | true, text =>
      decidable_of_iff (∃ rest ∈ text.tails, Matches star accepts pattern rest)
        (by simp [Matches, hs])
    | false, [] => isFalse (by simp [Matches, hs])
    | false, char :: rest =>
      decidable_of_iff (accepts item char ∧ Matches star accepts pattern rest)
        (by simp [Matches, hs])

section

variable {star accepts} {pattern P P₀ : List β} {text T T₀ : List α} {item : β} {char : α}
  {items : List β} {chars : List α}

theorem matches_star (hs : star item = true) :
    Matches star accepts (item :: P) T ↔ ∃ rest, rest <:+ T ∧ Matches star accepts P rest := by
  simp [Matches, hs, List.mem_tails]

theorem matches_item_cons (hs : star item = false) :
    Matches star accepts (item :: P) (char :: T) ↔
      accepts item char = true ∧ Matches star accepts P T := by
  simp [Matches, hs]

theorem not_matches_item_nil (hs : star item = false) :
    ¬ Matches star accepts (item :: P) ([] : List α) := by
  simp [Matches, hs]

/-- Only stars describe the empty text. -/
theorem matches_nil_iff : Matches star accepts P ([] : List α) ↔ ∀ item ∈ P, star item = true := by
  induction P with
  | nil => simp [Matches]
  | cons item P ih =>
    cases hs : star item with
    | false => simp [not_matches_item_nil hs, hs]
    | true => simp [matches_star hs, hs, ih]

/-- Where items take their characters, the rest decides. -/
theorem matches_append_of_taken (htaken : Taken star accepts items chars) :
    Matches star accepts (items ++ P) (chars ++ T) ↔ Matches star accepts P T := by
  induction htaken with
  | nil => rfl
  | cons h _ ih => rw [List.cons_append, List.cons_append, matches_item_cons h.1, ih]; simp [h.2]

/-- Items that are no stars take as many characters as they are. -/
theorem Matches.split (hstar : ∀ item ∈ items, star item = false)
    (h : Matches star accepts (items ++ P) T) :
    ∃ chars rest, T = chars ++ rest ∧ chars.length = items.length ∧ Matches star accepts P rest := by
  induction items generalizing T with
  | nil => exact ⟨[], T, rfl, rfl, h⟩
  | cons item items ih =>
    have hs := hstar item List.mem_cons_self
    cases T with
    | nil => exact absurd h (not_matches_item_nil hs)
    | cons char T =>
      rw [List.cons_append, matches_item_cons hs] at h
      obtain ⟨chars, rest, rfl, hlen, hrest⟩ :=
        ih (fun i hi => hstar i (List.mem_cons_of_mem _ hi)) h.2
      exact ⟨char :: chars, rest, rfl, by simp [hlen], hrest⟩

theorem Taken.star_eq_false (htaken : Taken star accepts items chars) :
    ∀ item ∈ items, star item = false := by
  intro item hitem
  induction htaken with
  | nil => exact absurd hitem List.not_mem_nil
  | cons h _ ih =>
    rcases List.mem_cons.mp hitem with rfl | hitem
    · exact h.1
    · exact ih hitem

/-- What items left of an end of the text leave is an end of what they left of the text itself. -/
theorem Taken.matches_suffix (htaken : Taken star accepts items chars) {rest : List α}
    (hsuffix : rest <:+ chars ++ T) (h : Matches star accepts (items ++ P) rest) :
    ∃ rest', rest' <:+ T ∧ Matches star accepts P rest' := by
  obtain ⟨chars', rest', rfl, hlen, hrest⟩ := h.split htaken.star_eq_false
  obtain ⟨run, hrun⟩ := hsuffix
  have hlength : chars'.length = chars.length := hlen.trans htaken.length_eq
  have htotal := congrArg List.length hrun
  simp only [List.length_append] at htotal
  refine ⟨rest', ?_, hrest⟩
  refine List.suffix_of_suffix_length_le ⟨run ++ chars', ?_⟩ (List.suffix_append chars T) (by omega)
  rw [List.append_assoc]
  exact hrun

theorem not_matches_of_stuck (hstuck : Stuck star accepts P char) :
    ¬ Matches star accepts P (char :: T) := by
  cases P with
  | nil => simp [Matches]
  | cons item P =>
    have h := hstuck item rfl
    rw [matches_item_cons h.1]
    simp [h.2]

/-! ## The moves -/

variable {back : Option (List β × List α)}

theorem Tracks.init : Tracks star accepts pattern text pattern text none :=
  Iff.rfl

/-- An item took a character. -/
theorem Tracks.take (h : Tracks star accepts pattern text (item :: P) (char :: T) back)
    (hs : star item = false) (ha : accepts item char = true) :
    Tracks star accepts pattern text P T back := by
  rcases back with _ | ⟨P₀, T₀⟩
  · refine h.trans ?_
    rw [matches_item_cons hs]
    simp [ha]
  · obtain ⟨⟨items, chars, rfl, rfl, htaken⟩, hmatch⟩ := h
    refine ⟨⟨items ++ [item], chars ++ [char], by simp, by simp, ?_⟩, hmatch⟩
    exact List.rel_append htaken (.cons ⟨hs, ha⟩ .nil)

/-- A star was met: nothing that an earlier star might still take matters any more. -/
theorem Tracks.meet (h : Tracks star accepts pattern text (item :: P) T back)
    (hs : star item = true) : Tracks star accepts pattern text P T (some (P, T)) := by
  refine ⟨⟨[], [], rfl, rfl, .nil⟩, ?_⟩
  rcases back with _ | ⟨P₀, T₀⟩
  · exact h.trans (matches_star hs)
  · obtain ⟨⟨items, chars, rfl, rfl, htaken⟩, hmatch⟩ := h
    refine hmatch.trans (Iff.trans ?_ (matches_star hs))
    constructor
    · rintro ⟨rest, hsuffix, hrest⟩
      obtain ⟨rest', hsuffix', hrest'⟩ := htaken.matches_suffix hsuffix hrest
      obtain ⟨end', hend', hmatches⟩ := (matches_star hs).mp hrest'
      exact (matches_star hs).mpr ⟨end', hend'.trans hsuffix', hmatches⟩
    · intro hmatches
      exact ⟨chars ++ T, List.suffix_rfl, (matches_append_of_taken htaken).mpr hmatches⟩

/-- The walk is stuck behind a star: the star takes one character more. -/
theorem Tracks.rewind (h : Tracks star accepts pattern text P (char :: T) (some (P₀, T₀)))
    (hstuck : Stuck star accepts P char) :
    Tracks star accepts pattern text P₀ T₀.tail (some (P₀, T₀.tail)) := by
  refine ⟨⟨[], [], rfl, rfl, .nil⟩, ?_⟩
  obtain ⟨⟨items, chars, rfl, rfl, htaken⟩, hmatch⟩ := h
  have hnot : ¬ Matches star accepts (items ++ P) (chars ++ char :: T) := by
    rw [matches_append_of_taken htaken]
    exact not_matches_of_stuck hstuck
  obtain ⟨first, rest, hrest⟩ : ∃ first rest, chars ++ char :: T = first :: rest :=
    List.exists_cons_of_ne_nil (by simp)
  rw [hmatch, hrest]
  rw [hrest] at hnot
  constructor
  · rintro ⟨T', hsuffix, hT'⟩
    rcases List.suffix_cons_iff.mp hsuffix with rfl | hsuffix
    · exact absurd hT' hnot
    · exact ⟨T', hsuffix, hT'⟩
  · rintro ⟨T', hsuffix, hT'⟩
    exact ⟨T', hsuffix.trans (List.suffix_cons first rest), hT'⟩

/-- The walk is stuck before any star. -/
theorem Tracks.fail (h : Tracks star accepts pattern text P (char :: T) none)
    (hstuck : Stuck star accepts P char) : ¬ Matches star accepts pattern text := by
  rw [show Matches star accepts pattern text ↔ Matches star accepts P (char :: T) from h]
  exact not_matches_of_stuck hstuck

/-- The whole text was walked. -/
theorem Tracks.finish (h : Tracks star accepts pattern text P ([] : List α) back) :
    Matches star accepts pattern text ↔ ∀ item ∈ P, star item = true := by
  have hP : Matches star accepts P ([] : List α) ↔ ∀ item ∈ P, star item = true := matches_nil_iff
  rw [← hP]
  rcases back with _ | ⟨P₀, T₀⟩
  · exact h
  · obtain ⟨⟨items, chars, rfl, rfl, htaken⟩, hmatch⟩ := h
    rw [hmatch]
    constructor
    · rintro ⟨rest, hsuffix, hrest⟩
      obtain ⟨rest', hsuffix', hrest'⟩ := htaken.matches_suffix hsuffix hrest
      rwa [List.eq_nil_of_suffix_nil hsuffix'] at hrest'
    · intro hmatches
      exact ⟨chars ++ [], List.suffix_rfl, (matches_append_of_taken htaken).mpr hmatches⟩

end

end Glob
