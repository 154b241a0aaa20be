import Mathlib.Data.List.Basic

/-! # Histories of events

A history is a list of events, the latest one last. What holds at its end is read off from the events.
-/

namespace History

variable {ε : Type} {start stop : ε → Prop} {events : List ε} {e : ε}

/-- A `start` event with no `stop` event after it. -/
def Since (start stop : ε → Prop) (events : List ε) : Prop :=
  ∃ before e after, events = before ++ e :: after ∧ start e ∧ ∀ later ∈ after, ¬stop later

theorem not_since_nil : ¬Since start stop [] := by
  rintro ⟨before, e, after, h, -⟩
  cases before <;> cases h

/-- **One more event** starts it, or leaves it as it is, or stops it. -/
theorem since_snoc :
    Since start stop (events ++ [e]) ↔ start e ∨ Since start stop events ∧ ¬stop e := by
  constructor
  · rintro ⟨before, first, after, h, hstart, hafter⟩
    obtain rfl | ⟨rest, last, rfl⟩ := List.eq_nil_or_concat' after
    · obtain ⟨-, rfl⟩ := List.append_inj' h rfl |>.imp_right List.singleton_inj.mp
      exact .inl hstart
    · have hsplit : events ++ [e] = (before ++ first :: rest) ++ [last] := by
        rw [h, List.append_assoc, List.cons_append]
      obtain ⟨rfl, hlast⟩ := List.append_inj' hsplit rfl
      obtain rfl := List.singleton_inj.mp hlast
      exact .inr ⟨⟨before, first, rest, rfl, hstart, fun later hlater =>
        hafter later (List.mem_append_left _ hlater)⟩, hafter e (List.mem_append_right _
          List.mem_cons_self)⟩
  · rintro (hstart | ⟨⟨before, first, after, rfl, hstart, hafter⟩, hstop⟩)
    · exact ⟨events, e, [], rfl, hstart, fun _ hlater => absurd hlater List.not_mem_nil⟩
    · refine ⟨before, first, after ++ [e], by rw [List.append_assoc, List.cons_append], hstart, ?_⟩
      intro later hlater
      obtain hmem | hmem := List.mem_append.mp hlater
      · exact hafter later hmem
      · rw [List.mem_singleton.mp hmem]
        exact hstop

/-- Every event was right after the events before it. -/
def Each (right : List ε → ε → Prop) (events : List ε) : Prop :=
  ∀ before e after, events = before ++ e :: after → right before e

variable {right : List ε → ε → Prop}

theorem each_nil : Each right [] := by
  intro before e after h
  cases before <;> cases h

theorem Each.snoc (h : Each right events) (he : right events e) : Each right (events ++ [e]) := by
  intro before other after hsplit
  obtain rfl | ⟨rest, last, rfl⟩ := List.eq_nil_or_concat' after
  · obtain ⟨rfl, hlast⟩ := List.append_inj' hsplit rfl
    rwa [← List.singleton_inj.mp hlast]
  · rw [← List.cons_append, ← List.append_assoc] at hsplit
    exact h before other rest (List.append_inj' hsplit rfl).1

theorem Each.of_snoc (h : Each right (events ++ [e])) : Each right events ∧ right events e := by
  refine ⟨fun before other after hsplit => h before other (after ++ [e]) ?_, h events e [] rfl⟩
  rw [hsplit, List.append_assoc, List.cons_append]

end History
