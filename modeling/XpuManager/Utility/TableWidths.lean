import Mathlib.Data.List.Induction
import XpuManager.Lib.RunningMax
import XpuManager.Lib.Runs
import XpuManager.Utility.TableBuilder

/-! # Column widths that are locked

`lockWidths` freezes the widths of the columns. Every new row takes that back. -/

namespace XpuManager

namespace Table

open RunningMax

/-! ## The columns one by one -/

section

variable {col last : Column} {front columns : List Column} {lines : List Str}
  {texts : List (List Str)} {maxCellWidth width : Int} {row : Row} {rows : List Row}

@[simp] theorem Column.widen_nil (col : Column) : col.widen [] = col := rfl

@[simp] theorem widen_nil (columns : List Column) : widen columns [] = columns := by
  cases columns <;> rfl

@[simp] theorem length_widen (columns : List Column) (texts : List (List Str)) :
    (widen columns texts).length = columns.length := by
  fun_induction widen columns texts with
  | case1 col columns lines cells ih => rw [List.length_cons, List.length_cons, ih]
  | case2 => rfl

theorem widen_concat (front : List Column) (last : Column) (texts : List (List Str)) :
    widen (front ++ [last]) texts =
      widen front texts ++ [last.widen (texts.getD front.length [])] := by
  induction front generalizing texts with
  | nil => cases texts <;> simp [widen]
  | cons col front ih =>
    cases texts with
    | nil => simp
    | cons lines texts => simp [widen, ih]

theorem getElem_widen (columns : List Column) (texts : List (List Str)) (i : Nat)
    (h : i < columns.length) (hi : i < (widen columns texts).length) :
    (widen columns texts)[i] = columns[i].widen (texts.getD i []) := by
  induction columns generalizing texts i with
  | nil => exact absurd h (Nat.not_lt_zero i)
  | cons col columns ih =>
    cases texts with
    | nil => simp
    | cons lines texts =>
      cases i with
      | zero => rfl
      | succ i => exact ih texts i (Nat.lt_of_succ_lt_succ h) (Nat.lt_of_succ_lt_succ hi)

/-- How wide a text makes its column. -/
def limited (maxCellWidth : Int) (text : Str) : Int := min (displayWidth text) (maxCellWidth - 2) + 2

/-- A column is as wide as its texts make it. -/
theorem limit_widen_le_iff : ((col.widen lines).limit maxCellWidth).width ≤ width ↔
    (col.limit maxCellWidth).width ≤ width ∧
      ∀ line ∈ lines, limited maxCellWidth line ≤ width := by
  have hmono : Monotone fun w : Int => min w (maxCellWidth - 2) + 2 := fun v w h =>
    Int.add_le_add_right (min_le_min_right _ h) 2
  have hwidth : ((col.widen lines).limit maxCellWidth).width =
      (lines.map (limited maxCellWidth)).foldl max (col.limit maxCellWidth).width := by
    refine (map_foldl_max hmono col.width (lines.map displayWidth)).trans ?_
    rw [List.map_map]
    rfl
  rw [hwidth, foldl_max_le_iff, List.forall_mem_map]

/-- Texts for which there is room leave a column as it is. -/
theorem limit_widen_eq_iff : (col.widen lines).limit maxCellWidth = col.limit maxCellWidth ↔
    ∀ line ∈ lines, limited maxCellWidth line ≤ (col.limit maxCellWidth).width := by
  constructor
  · intro h
    exact (limit_widen_le_iff.mp (congrArg Column.width h).le).2
  · intro h
    have hle := limit_widen_le_iff.mpr ⟨le_rfl, h⟩
    have hge := (limit_widen_le_iff.mp (le_refl ((col.widen lines).limit maxCellWidth).width)).1
    exact congrArg (fun w => { col with width := w }) (le_antisymm hle hge)

/-! ## Texts across all columns -/

/-- The width that all columns but the last one take. -/
def frontWidth (front : List Column) : Int := (front.map fun col => col.width + 3).sum

/-- How wide a row's text across all columns makes the last one. -/
def Row.needs (front : List Column) (row : Row) : List Int :=
  (row.spanText.map fun text => displayWidth text - frontWidth front).toList

theorem contentWidth_concat : contentWidth (front ++ [last]) = frontWidth front + last.width := by
  rw [contentWidth, frontWidth, List.map_append, List.sum_append]
  simp only [List.map_cons, List.map_nil, List.sum_singleton]
  omega

theorem widenLast_concat (deficit : Int) : widenLast (front ++ [last]) deficit =
    front ++ [{ last with width := last.width + deficit }] := by
  rw [widenLast, List.length_append, List.length_singleton, Nat.add_sub_cancel]
  induction front with
  | nil => rfl
  | cons col front ih => simpa using ih

theorem ensureFits_concat : ensureFits (front ++ [last]) row =
    front ++ [{ last with width := (row.needs front).foldl max last.width }] := by
  rw [ensureFits, Row.needs]
  cases row.spanText with
  | none => rfl
  | some text =>
    dsimp only [Option.map_some, Option.toList_some, List.foldl_cons, List.foldl_nil]
    rw [contentWidth_concat, widenLast_concat]
    split
    case isTrue h =>
      rw [max_eq_right (by omega)]
      congr 3
      omega
    case isFalse h => rw [max_eq_left (by omega)]

theorem foldl_ensureFits_concat : rows.foldl ensureFits (front ++ [last]) =
    front ++ [{ last with width := (rows.flatMap (Row.needs front)).foldl max last.width }] := by
  induction rows generalizing last with
  | nil => rfl
  | cons row rows ih =>
    rw [List.foldl_cons, ensureFits_concat, ih, List.flatMap_cons, List.foldl_append]

/-! ## All columns -/

/-- A row that is no wider than the columns. -/
structure Row.Fits (row : Row) (maxCellWidth : Int) (columns : List Column) : Prop where
  cells : ∀ i (h : i < columns.length), ∀ line ∈ row.texts.getD i [],
    limited maxCellWidth line ≤ columns[i].width
  span : ∀ text, row.spanText = some text → displayWidth text ≤ contentWidth columns

/-- A row fits the columns up to the last and the last one by itself. -/
theorem Row.fits_concat : row.Fits maxCellWidth (front ++ [last]) ↔
    (∀ i (h : i < front.length), ∀ line ∈ row.texts.getD i [],
      limited maxCellWidth line ≤ front[i].width) ∧
    (∀ line ∈ row.texts.getD front.length [], limited maxCellWidth line ≤ last.width) ∧
    ∀ need ∈ row.needs front, need ≤ last.width := by
  have hlast : front.length < (front ++ [last]).length := by simp
  have hspan : (∀ text, row.spanText = some text →
      displayWidth text ≤ contentWidth (front ++ [last])) ↔
      ∀ need ∈ row.needs front, need ≤ last.width := by
    rw [contentWidth_concat, Row.needs]
    cases row.spanText with
    | none => simp
    | some text =>
      simp only [Option.some.injEq, forall_eq', Option.map_some, Option.toList_some,
        List.mem_singleton, forall_eq]
      omega
  constructor
  · rintro ⟨hcells, htext⟩
    refine ⟨fun i hi line hline => ?_, fun line hline => ?_, hspan.mp htext⟩
    · have h := hcells i (hi.trans (by simp)) line hline
      rwa [List.getElem_append_left hi] at h
    · have h := hcells front.length hlast line hline
      rwa [List.getElem_concat_length rfl] at h
  · rintro ⟨hfront, hback, htext⟩
    refine ⟨fun i hi line hline => ?_, hspan.mpr htext⟩
    rcases Nat.lt_or_ge i front.length with hlt | hge
    · rw [List.getElem_append_left hlt]
      exact hfront i hlt line hline
    · obtain rfl : i = front.length := by
        rw [List.length_append, List.length_singleton] at hi
        omega
      rw [List.getElem_concat_length rfl]
      exact hback line hline

/-- The front columns stay as they are exactly where there is room in them. -/
theorem map_limit_widen_eq_iff :
    (widen front texts).map (Column.limit maxCellWidth) = front.map (Column.limit maxCellWidth) ↔
      ∀ i (h : i < (front.map (Column.limit maxCellWidth)).length), ∀ line ∈ texts.getD i [],
        limited maxCellWidth line ≤ (front.map (Column.limit maxCellWidth))[i].width := by
  simp only [List.length_map, List.getElem_map, ← limit_widen_eq_iff]
  constructor
  · intro h i hi
    have hi' : i < ((widen front texts).map (Column.limit maxCellWidth)).length := by simpa using hi
    have hcol := List.getElem_of_eq h hi'
    rwa [List.getElem_map, List.getElem_map, getElem_widen front texts i hi] at hcol
  · intro h
    refine List.ext_getElem (by simp) fun i hi _ => ?_
    have hi' : i < front.length := by simpa using hi
    rw [List.getElem_map, List.getElem_map, getElem_widen front texts i hi']
    exact h i hi'

end

namespace TableBuilder

variable {t : TableBuilder} {row : Row} {front : List Column} {last : Column}

/-- The columns before the limit. -/
def rawColumns (t : TableBuilder) : List Column :=
  t.rows.foldl (fun columns row => widen columns row.texts) (t.columns.map Column.fitHeaders)

/-- A new row. -/
def withRow (t : TableBuilder) (row : Row) : TableBuilder :=
  { t with rows := t.rows ++ [row], widthsCalculated := false }

/-- How wide the texts across all columns make the last one. -/
def needs (t : TableBuilder) (front : List Column) : List Int :=
  (t.preHeaderRows ++ t.rows).flatMap (Row.needs front)

/-- The widths that the rows give the columns: only the last one depends on the texts across all
columns. -/
theorem sizedColumns_eq (h : t.rawColumns = front ++ [last]) :
    t.sizedColumns = front.map (Column.limit t.config.maxCellWidth) ++ [{ last with
      width := (t.needs (front.map (Column.limit t.config.maxCellWidth))).foldl max
        (last.limit t.config.maxCellWidth).width }] := by
  have hsized : t.sizedColumns = (t.preHeaderRows ++ t.rows).foldl ensureFits
      (t.rawColumns.map (Column.limit t.config.maxCellWidth)) := by
    rw [List.foldl_append]
    rfl
  rw [hsized, h, List.map_append, List.map_singleton, foldl_ensureFits_concat]
  rfl

theorem rawColumns_withRow : (t.withRow row).rawColumns = widen t.rawColumns row.texts := by
  rw [rawColumns, withRow, List.foldl_append]
  rfl

theorem needs_withRow (front : List Column) :
    (t.withRow row).needs front = t.needs front ++ row.needs front := by
  rw [needs, withRow, ← List.append_assoc, List.flatMap_append, List.flatMap_singleton, needs]

theorem length_rawColumns (t : TableBuilder) : t.rawColumns.length = t.columns.length := by
  have hlength (rows : List Row) (columns : List Column) : (rows.foldl
      (fun columns row => widen columns row.texts) columns).length = columns.length := by
    induction rows generalizing columns with
    | nil => rfl
    | cons row rows ih => rw [List.foldl_cons, ih, length_widen]
  rw [rawColumns, hlength, List.length_map]

theorem exists_rawColumns (h : t.columns ≠ []) : ∃ front last, t.rawColumns = front ++ [last] := by
  obtain hnil | ⟨front, last, hraw⟩ := List.eq_nil_or_concat t.rawColumns
  · rw [← List.length_eq_zero_iff, length_rawColumns, List.length_eq_zero_iff] at hnil
    exact absurd hnil h
  · exact ⟨front, last, by rw [hraw, List.concat_eq_append]⟩

theorem length_sizedColumns (h : t.columns ≠ []) : t.sizedColumns.length = t.columns.length := by
  obtain ⟨front, last, hraw⟩ := exists_rawColumns h
  rw [sizedColumns_eq hraw, ← length_rawColumns, hraw]
  simp

/-- Texts below the last column, and across all of them, leave its width as it is exactly where they
are no wider. -/
theorem foldl_needs_eq_iff {texts : List Str} {w : Int} (hw : w = (t.needs front).foldl max
    (last.limit t.config.maxCellWidth).width) :
    (t.needs front ++ row.needs front).foldl max
        ((last.widen texts).limit t.config.maxCellWidth).width = w ↔
      (∀ line ∈ texts, limited t.config.maxCellWidth line ≤ w) ∧
        ∀ need ∈ row.needs front, need ≤ w := by
  have hbound : (last.limit t.config.maxCellWidth).width ≤ w ∧
      ∀ need ∈ t.needs front, need ≤ w := foldl_max_le_iff.mp hw.ge
  have hle : w ≤ (t.needs front ++ row.needs front).foldl max
      ((last.widen texts).limit t.config.maxCellWidth).width := by
    rw [hw, foldl_max_le_iff]
    refine ⟨(limit_widen_le_iff.mp le_foldl_max).1, fun need hneed => ?_⟩
    exact le_foldl_max_of_mem (List.mem_append_left _ hneed)
  rw [le_antisymm_iff, and_iff_left hle, foldl_max_le_iff, limit_widen_le_iff,
    List.forall_mem_append]
  constructor
  · rintro ⟨⟨-, htexts⟩, -, hneeds⟩
    exact ⟨htexts, hneeds⟩
  · rintro ⟨htexts, hneeds⟩
    exact ⟨⟨hbound.1, htexts⟩, hbound.2, hneeds⟩

/-- A new row leaves the widths as they are exactly where it is no wider than the columns. -/
theorem sizedColumns_withRow_iff (row : Row) (hcols : t.columns ≠ []) :
    (t.withRow row).sizedColumns = t.sizedColumns ↔
      row.Fits t.config.maxCellWidth t.sizedColumns := by
  obtain ⟨front, last, hraw⟩ := exists_rawColumns hcols
  have hraw' : (t.withRow row).rawColumns =
      widen front row.texts ++ [last.widen (row.texts.getD front.length [])] := by
    rw [rawColumns_withRow, hraw, widen_concat]
  have hconfig : (t.withRow row).config = t.config := rfl
  rw [sizedColumns_eq hraw, sizedColumns_eq hraw', needs_withRow, hconfig, Row.fits_concat,
    ← map_limit_widen_eq_iff, List.length_map]
  constructor
  · intro h
    obtain ⟨hfront, hback⟩ := List.append_inj' h rfl
    rw [hfront] at hback
    have hwidth := congrArg Column.width (List.singleton_inj.mp hback)
    exact ⟨hfront, (foldl_needs_eq_iff rfl).mp hwidth⟩
  · rintro ⟨hfront, hback⟩
    rw [hfront]
    exact congrArg (fun w => _ ++ [{ last with width := w }]) ((foldl_needs_eq_iff rfl).mpr hback)

/-! ## Locked widths -/

/-- The widths of the columns. -/
def widths (t : TableBuilder) : List Int := t.columns.map Column.width

end TableBuilder

/-- What a program does with a table whose columns are there: new rows (`addRows` adds one after the
other), and renderings, all of which begin with `calculateWidths`. -/
inductive TableStep where
  | addRow (cells : List Str)
  | addMultiLineRow (cellLines : List (List Str))
  | addSpanRow (text : Str) (style : BorderStyle)
  | addSeparator (style : BorderStyle)
  | render

namespace TableBuilder

/-- A step; a row that is refused leaves the table as it is. -/
def step (t : TableBuilder) : TableStep → Option TableBuilder
  | .addRow cells =>
    match t.addRow cells with
    | .error _ => some t
    | .ok t => some t
  | .addMultiLineRow cellLines => some (t.addMultiLineRow cellLines)
  | .addSpanRow text style => some (t.addSpanRow text style)
  | .addSeparator style => some (t.addSeparator style)
  | .render => some t.calculateWidths

/-- The row for which a step has the widths computed again. -/
def newRow (t : TableBuilder) : TableStep → Option Row
  | .addRow cells =>
    if t.columns ≠ [] ∧ cells.length ≠ t.columns.length then none else some { cells := cells }
  | .addMultiLineRow cellLines => some { multiLineCells := cellLines }
  | .addSpanRow text style => some { spanText := some text, borderStyle := style }
  | .addSeparator _ | .render => none

/-- The columns are not sized by their content, or they are as the rows make them, and a new row is no
wider. -/
def KeepsWidths (t : TableBuilder) (action : TableStep) : Prop :=
  t.autoSize = false ∨ t.columns = [] ∨ ∀ row, t.newRow action = some row →
    t.sizedColumns = t.columns ∧ row.Fits t.config.maxCellWidth t.columns

/-- The columns are those, and `calculateWidths` will not change them. -/
structure Locked (columns : List Column) (t : TableBuilder) : Prop where
  columns_eq : t.columns = columns
  kept : t.widthsCalculated = true ∨ t.autoSize = false ∨ t.columns = [] ∨
    t.sizedColumns = t.columns

variable {t t' : TableBuilder} {row : Row} {action : TableStep} {columns : List Column}

theorem step_newRow {t : TableBuilder} {action : TableStep} {row : Row}
    (h : t.newRow action = some row) : t.step action = some (t.withRow row) := by
  cases action with
  | addRow cells =>
    rw [newRow] at h
    split at h
    case isTrue => exact absurd h (by simp)
    case isFalse hcount =>
      obtain rfl := Option.some.inj h
      rw [step, addRow, if_neg hcount]
      rfl
  | addMultiLineRow cellLines =>
    obtain rfl := Option.some.inj h
    rfl
  | addSpanRow text style =>
    obtain rfl := Option.some.inj h
    rfl
  | addSeparator style => exact absurd h (by simp [newRow])
  | render => exact absurd h (by simp [newRow])

/-- A row without texts is no wider than any columns. -/
theorem sizedColumns_addSeparator (t : TableBuilder) (style : BorderStyle) :
    (t.addSeparator style).sizedColumns = t.sizedColumns := by
  rw [sizedColumns, sizedColumns, addSeparator, List.foldl_append, List.foldl_append]
  simp only [List.foldl_cons, List.foldl_nil, ensureFits]
  simp [Row.texts]

/-- Locked widths are not calculated again. -/
theorem Locked.calculateWidths (h : Locked columns t) : Locked columns t.calculateWidths := by
  rw [TableBuilder.calculateWidths]
  split
  case isTrue => exact h
  case isFalse hcalc =>
    rw [not_or, not_or] at hcalc
    have hsized : t.sizedColumns = t.columns := by
      rcases h.kept with hflag | hauto | hcols | hsized
      · exact absurd hflag hcalc.2.2
      · exact absurd (by simp [hauto]) hcalc.1
      · exact absurd hcols hcalc.2.1
      · exact hsized
    exact ⟨hsized.trans h.columns_eq, .inl rfl⟩

/-- A step that meets the condition keeps the columns. -/
theorem Locked.step (h : Locked columns t) (hkeeps : t.KeepsWidths action)
    (hstep : t.step action = some t') : Locked columns t' := by
  cases hrow : t.newRow action with
  | some row =>
    rw [step_newRow hrow] at hstep
    obtain rfl := Option.some.inj hstep
    refine ⟨h.columns_eq, .inr ?_⟩
    rcases hkeeps with hauto | hcols | hfits
    · exact .inl hauto
    · exact .inr (.inl hcols)
    · by_cases hcols : t.columns = []
      · exact .inr (.inl hcols)
      · obtain ⟨hsized, hfit⟩ := hfits row hrow
        refine .inr (.inr ?_)
        rw [(sizedColumns_withRow_iff row hcols).mpr (by rwa [hsized]), hsized]
        rfl
  | none =>
    cases action with
    | addRow cells =>
      rw [newRow] at hrow
      split at hrow
      case isTrue hcount =>
        rw [TableBuilder.step, addRow, if_pos hcount] at hstep
        obtain rfl := Option.some.inj hstep
        exact h
      case isFalse => exact absurd hrow (by simp)
    | addMultiLineRow cellLines => exact absurd hrow (by simp [newRow])
    | addSpanRow text style => exact absurd hrow (by simp [newRow])
    | addSeparator style =>
      obtain rfl := Option.some.inj hstep
      refine ⟨h.columns_eq, ?_⟩
      rw [sizedColumns_addSeparator]
      exact h.kept
    | render =>
      obtain rfl := Option.some.inj hstep
      exact h.calculateWidths

/-- After `lockWidths` the widths stay as they are in every run whose steps meet the condition. -/
theorem lockWidths_frozen (t : TableBuilder) {actions : List TableStep} {t' : TableBuilder}
    (hmeets : Runs.Meets step KeepsWidths t.lockWidths actions)
    (hrun : Runs.follow step t.lockWidths actions = some t') : t'.widths = t.lockWidths.widths := by
  have hlocked : Locked t.lockWidths.columns t' :=
    Runs.follow_invariant (fun s action s' h hkeeps hstep => h.step hkeeps hstep) ⟨rfl, .inl rfl⟩
      hmeets hrun
  rw [widths, hlocked.columns_eq, widths]

/-- A table of one column. -/
def named : TableBuilder := { columns := [⟨ascii "Name", [], 1, .left⟩] }

/-- A name of four letters keeps the width. -/
theorem lockWidths_frozen_named : ∃ t', Runs.follow step named.lockWidths
    [.addRow [ascii "fan0"], .render] = some t' ∧ t'.widths = [6] := by
  have hsized : named.lockWidths.sizedColumns = named.lockWidths.columns := by decide
  have hfits : Row.Fits { cells := [ascii "fan0"] } 50 named.lockWidths.sizedColumns :=
    (sizedColumns_withRow_iff (t := named.lockWidths) _ (by decide)).mp (by decide)
  have hmeets : Runs.Meets step KeepsWidths named.lockWidths
      [.addRow [ascii "fan0"], .render] := by
    refine ⟨.inr (.inr fun row hrow => ?_), fun s hs => ⟨.inr (.inr fun row hrow => ?_), ?_⟩⟩
    · obtain rfl := Option.some.inj hrow
      exact ⟨hsized, hsized ▸ hfits⟩
    · exact absurd hrow (by simp [newRow])
    · exact fun _ _ => trivial
  have hstep : step named.lockWidths (.addRow [ascii "fan0"]) =
      some (named.lockWidths.withRow { cells := [ascii "fan0"] }) := step_newRow (by decide)
  have hrun : Runs.follow step named.lockWidths [.addRow [ascii "fan0"], .render] =
      some (named.lockWidths.withRow { cells := [ascii "fan0"] }).calculateWidths := by
    rw [Runs.follow, hstep]
    rfl
  exact ⟨_, hrun, (lockWidths_frozen named hmeets hrun).trans (by decide)⟩

/-- A longer one widens the column that was locked. -/
theorem lockWidths_widened : ¬ ∀ actions t', Runs.follow step named.lockWidths actions = some t' →
    t'.widths = named.lockWidths.widths := by
  intro h
  let row : Row := { cells := [ascii "temperature"] }
  have hstep : step named.lockWidths (.addRow [ascii "temperature"]) =
      some (named.lockWidths.withRow row) := step_newRow (by decide)
  have hwidths := h [.addRow [ascii "temperature"], .render]
    (named.lockWidths.withRow row).calculateWidths (by rw [Runs.follow, hstep]; rfl)
  exact absurd hwidths (by decide)

end TableBuilder

end Table

end XpuManager
