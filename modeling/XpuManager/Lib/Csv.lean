import XpuManager.Lib.Text

/-! # Lines of cells

Lines in which a comma and a blank stand between the cells, and nothing is escaped. -/

namespace Csv

/-- The line of some cells. -/
def join (values : List Text) : Text := ", ".toList.intercalate values

/-- What stands between the commas of a line, less the blank behind each. -/
def cells (line : Text) : List Text :=
  match line.splitOn ',' with
  | [] => []
  | cell :: rest => cell :: rest.map (List.drop 1)

variable {values : List Text} {value cell : Text}

theorem join_cons (value : Text) (values : List Text) :
    join (value :: values) = [','].intercalate (value :: values.map (' ' :: ·)) := by
  induction values generalizing value with
  | nil => rfl
  | cons value' values ih =>
    have hrest : join (value :: value' :: values) = value ++ ", ".toList ++ join (value' :: values) := by
      rw [join, List.intercalate_cons_cons]
      rfl
    rw [hrest, ih, List.map_cons, List.intercalate_cons_cons, List.intercalate_cons_cons_left]
    simp

theorem join_concat (hne : values ≠ []) (value : Text) :
    join (values ++ [value]) = join values ++ ", ".toList ++ value := by
  induction values with
  | nil => exact absurd rfl hne
  | cons value' values ih =>
    cases values with
    | nil =>
      rw [List.singleton_append, join, List.intercalate_cons_cons, List.intercalate_singleton, join,
        List.intercalate_singleton]
    | cons value'' values =>
      have hlater : ∀ values', join (value' :: value'' :: values') =
          value' ++ ", ".toList ++ join (value'' :: values') := by
        intro values'
        rw [join, List.intercalate_cons_cons]
        rfl
      rw [List.cons_append, List.cons_append, hlater, ← List.cons_append, ih (List.cons_ne_nil _ _),
        hlater, List.append_assoc, List.append_assoc, List.append_assoc, List.append_assoc,
        List.append_assoc]

/-- A line may be extended cell by cell. -/
theorem foldl_join (hne : values ≠ []) (later : List Text) :
    later.foldl (fun line value => line ++ ", ".toList ++ value) (join values) =
      join (values ++ later) := by
  induction later generalizing values with
  | nil => rw [List.append_nil]; rfl
  | cons value later ih =>
    rw [List.foldl_cons, ← join_concat hne, ih (List.append_ne_nil_of_left_ne_nil hne _),
      List.append_assoc]
    rfl

/-- No cell has a comma. -/
theorem not_mem_of_mem_cells {line : Text} (h : cell ∈ cells line) : ',' ∉ cell := by
  rw [cells] at h
  split at h
  case h_1 => exact absurd h List.not_mem_nil
  case h_2 first rest hsplit =>
    have hmem : ∀ piece ∈ first :: rest, ',' ∉ piece := fun piece hpiece =>
      Text.not_mem_of_mem_splitOn (hsplit ▸ hpiece)
    rw [List.forall_mem_cons] at hmem
    rcases List.mem_cons.mp h with rfl | h
    · exact hmem.1
    · obtain ⟨piece, hpiece, rfl⟩ := List.mem_map.mp h
      exact fun hcomma => hmem.2 piece hpiece (List.mem_of_mem_drop hcomma)

/-- Splitting undoes joining. -/
theorem cells_join (hne : values ≠ []) (h : ∀ value ∈ values, ',' ∉ value) :
    cells (join values) = values := by
  obtain ⟨value, values, rfl⟩ := List.exists_cons_of_ne_nil hne
  rw [List.forall_mem_cons] at h
  have hblank : ∀ piece ∈ value :: values.map (' ' :: ·), ',' ∉ piece := by
    rw [List.forall_mem_cons]
    refine ⟨h.1, List.forall_mem_map.mpr fun piece hpiece hcomma => ?_⟩
    exact h.2 piece hpiece (List.mem_of_ne_of_mem (by decide) hcomma)
  have hdrop : (values.map (' ' :: ·)).map (List.drop 1) = values := by
    rw [List.map_map]
    exact List.map_id _
  rw [join_cons, cells, List.splitOn_intercalate ',' hblank (List.cons_ne_nil _ _)]
  exact congrArg (List.cons value) hdrop

/-- **Cells are read back** exactly if there is no comma in them. -/
theorem cells_join_iff (hne : values ≠ []) :
    cells (join values) = values ↔ ∀ value ∈ values, ',' ∉ value := by
  refine ⟨fun h value hvalue => ?_, cells_join hne⟩
  rw [← h] at hvalue
  exact not_mem_of_mem_cells hvalue

end Csv
