import Mathlib.Data.List.Basic
import Mathlib.Order.Lattice

/-! # Keeping the worse of two entries

Entries are merged one by one: a new entry replaces the one held when its rank is higher. Entries
of one rank `skip` never replace another, whatever is held. Ranks are of any linear order. -/

variable {α β : Type} [LinearOrder α] (rank : β → α) (skip : α)

/-- The entry held after `new` came to `old`. -/
def keepWorse (old new : β) : β :=
  if rank new ≠ skip ∧ rank old < rank new then new else old

section

variable {rank skip} {a x : β} {as : List β}

/-- Merging never lowers the rank. -/
theorem le_keepWorse (old new : β) : rank old ≤ rank (keepWorse rank skip old new) := by
  rw [keepWorse]
  split
  case isTrue h => exact h.2.le
  case isFalse => exact le_rfl

/-- The merge of a list is one of its entries. -/
theorem foldl_keepWorse_mem : as.foldl (keepWorse rank skip) a ∈ a :: as := by
  induction as generalizing a with
  | nil => exact List.mem_singleton_self a
  | cons b as ih =>
    rw [List.foldl_cons]
    have hmem := @ih (keepWorse rank skip a b)
    rcases List.mem_cons.mp hmem with h | h
    · rw [h, keepWorse]
      split
      · simp
      · simp
    · exact List.mem_cons_of_mem _ (List.mem_cons_of_mem _ h)

/-- The merge of a list ranks at least as high as its first entry. -/
theorem le_foldl_keepWorse : rank a ≤ rank (as.foldl (keepWorse rank skip) a) := by
  induction as generalizing a with
  | nil => exact le_rfl
  | cons b as ih => exact (le_keepWorse a b).trans ih

/-- The merge of a list ranks at least as high as every entry that may replace another. -/
theorem le_foldl_keepWorse_of_mem (hx : x ∈ as) (hskip : rank x ≠ skip) :
    rank x ≤ rank (as.foldl (keepWorse rank skip) a) := by
  induction as generalizing a with
  | nil => exact absurd hx List.not_mem_nil
  | cons b as ih =>
    rw [List.foldl_cons]
    rcases List.mem_cons.mp hx with rfl | hx
    · have hle : rank x ≤ rank (keepWorse rank skip a x) := by
        rw [keepWorse]
        split
        case isTrue => exact le_rfl
        case isFalse h => exact not_lt.mp fun hlt => h ⟨hskip, hlt⟩
      exact hle.trans le_foldl_keepWorse
    · exact ih hx

/-- A list that starts below the skipped rank and never passes it stays below it. -/
theorem foldl_keepWorse_lt (ha : rank a < skip) (has : ∀ x ∈ as, rank x ≤ skip) :
    rank (as.foldl (keepWorse rank skip) a) < skip := by
  induction as generalizing a with
  | nil => exact ha
  | cons b as ih =>
    have hb : rank (keepWorse rank skip a b) < skip := by
      rw [keepWorse]
      split
      case isTrue h => exact lt_of_le_of_ne (has b List.mem_cons_self) h.1
      case isFalse => exact ha
    exact ih hb fun x hx => has x (List.mem_cons_of_mem _ hx)

/-- **When one order keeps the worst entry.** The merge ranks as high as every entry unless the
list starts below the skipped rank and that rank is its highest. -/
theorem forall_le_foldl_keepWorse (h : ¬(rank a < skip ∧ (∃ x ∈ as, rank x = skip) ∧
    ∀ x ∈ as, rank x ≤ skip)) : ∀ x ∈ a :: as, rank x ≤ rank (as.foldl (keepWorse rank skip) a) := by
  intro x hx
  rcases List.mem_cons.mp hx with rfl | hx
  · exact le_foldl_keepWorse
  by_cases hskip : rank x = skip
  · -- a skipped entry: the list starts as high, or it has an entry above
    rcases lt_or_ge (rank a) skip with ha | ha
    · have hex : ¬ ∀ y ∈ as, rank y ≤ skip := fun hall => h ⟨ha, ⟨x, hx, hskip⟩, hall⟩
      push Not at hex
      obtain ⟨y, hy, hlt⟩ := hex
      calc rank x = skip := hskip
        _ ≤ rank y := hlt.le
        _ ≤ _ := le_foldl_keepWorse_of_mem hy hlt.ne'
    · calc rank x = skip := hskip
        _ ≤ rank a := ha
        _ ≤ _ := le_foldl_keepWorse
  · exact le_foldl_keepWorse_of_mem hx hskip

end
