import Mathlib.Data.List.Basic

/-! # Reading a list with the next item in view

A loop over a list that may take the next item together with the one that it is at. -/

namespace Scans

variable {α : Type*} {takes takes' : α → Option α → Bool} {items : List α}

/-- The items that the loop comes to, with the next ones. -/
def met (takes : α → Option α → Bool) : List α → List (α × Option α)
  | [] => []
  | [a] => [(a, none)]
  | a :: b :: rest => (a, some b) :: if takes a (some b) then met takes rest else met takes (b :: rest)

/-- A loop that takes the same of what another one meets meets the same. -/
theorem met_congr (h : ∀ p ∈ met takes items, takes p.1 p.2 = takes' p.1 p.2) :
    met takes items = met takes' items := by
  induction items using met.induct with
  | case1 => rfl
  | case2 a => rfl
  | case3 a b rest ihtakes ih =>
    rw [met, List.forall_mem_cons] at h
    rw [met, met]
    by_cases htakes : takes a (some b)
    · rw [if_pos htakes] at h
      rw [if_pos htakes, if_pos (h.1.symm.trans htakes), ihtakes h.2]
    · rw [if_neg htakes] at h
      rw [if_neg htakes, if_neg fun htakes' => htakes (h.1.trans htakes'), ih h.2]

end Scans
