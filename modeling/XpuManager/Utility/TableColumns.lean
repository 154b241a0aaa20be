import Mathlib.Data.List.GetD
import XpuManager.Utility.TableWidths

/-! # Removing a column

`removeColumn` removes the column and its plain cells. The cells of several lines stay, and what they
show moves one column to the right. -/

namespace XpuManager

namespace Table

open RunningMax

/-! ## One row -/

/-- A row as `removeColumn` leaves it. -/
def Row.removeCell (row : Row) (c : Nat) : Row := { row with cells := row.cells.eraseIdx c }

/-- A row that never had the column. -/
def Row.withoutCell (row : Row) (c : Nat) : Row :=
  { row with
    cells := row.cells.eraseIdx c
    multiLineCells := row.multiLineCells.eraseIdx c }

/-- The cells of several lines are the same without the one under column `c` of so many: they end
before it; or each column behind it has the lines of the next one, and no line is lost; or it was the
only such cell, and its one line shows what the plain cells show. -/
def Row.SameWithout (row : Row) (config : TableConfig) (columns c : Nat) : Prop :=
  row.multiLineCells.length ≤ c ∨
  (row.multiLineCells.eraseIdx c ≠ [] ∧ (row.withoutCell c).lineCount = row.lineCount ∧
    ∀ line < row.lineCount, ∀ i, c ≤ i → i + 1 < columns →
      row.lineContent i line = row.lineContent (i + 1) line) ∨
  (row.multiLineCells.eraseIdx c = [] ∧ row.lineCount = 1 ∧
    ∀ i, i + 1 < columns → row.lineContent i 0 = row.cellContent config (i + 1))

section

variable {row : Row} {config : TableConfig} {columns c i line : Nat}

theorem getD_eraseIdx {α : Type*} (xs : List α) (c i : Nat) (x : α) :
    (xs.eraseIdx c).getD i x = xs.getD (if i < c then i else i + 1) x := by
  rw [List.getD_eq_getElem?_getD, List.getD_eq_getElem?_getD, List.getElem?_eraseIdx]
  split <;> rfl

/-- Line by line and cell by cell. -/
theorem lines_eq_iff {row' : Row} : row.lines config columns = row'.lines config columns ↔
    row.lineCount = row'.lineCount ∧ ∀ line < row.lineCount, ∀ i < columns,
      row.content config i line = row'.content config i line := by
  constructor
  · intro h
    have hcount : row.lineCount = row'.lineCount := by
      simpa [Row.lines] using congrArg List.length h
    refine ⟨hcount, fun line hline i hi => ?_⟩
    rw [Row.lines, Row.lines, ← hcount, List.map_inj_left] at h
    exact List.map_inj_left.mp (h line (List.mem_range.mpr hline)) i (List.mem_range.mpr hi)
  · rintro ⟨hcount, hcontent⟩
    rw [Row.lines, Row.lines, ← hcount, List.map_inj_left]
    intro line hline
    rw [List.map_inj_left]
    exact fun i hi => hcontent line (List.mem_range.mp hline) i (List.mem_range.mp hi)

@[simp] theorem lineCount_removeCell (row : Row) (c : Nat) :
    (row.removeCell c).lineCount = row.lineCount := rfl

@[simp] theorem lineContent_removeCell (row : Row) (c i line : Nat) :
    (row.removeCell c).lineContent i line = row.lineContent i line := rfl

theorem lineContent_withoutCell (row : Row) (c i line : Nat) :
    (row.withoutCell c).lineContent i line =
      row.lineContent (if i < c then i else i + 1) line := by
  rw [Row.lineContent, Row.withoutCell, getD_eraseIdx, Row.lineContent]

theorem cellContent_withoutCell (row : Row) (config : TableConfig) (c i : Nat) :
    (row.withoutCell c).cellContent config i =
      row.cellContent config (if i < c then i else i + 1) := by
  rw [Row.cellContent, Row.withoutCell, getD_eraseIdx, Row.cellContent]

theorem content_of_ne_nil (row : Row) (h : row.multiLineCells ≠ []) (config : TableConfig)
    (i line : Nat) : row.content config i line = row.lineContent i line :=
  if_pos h

theorem content_of_eq_nil (row : Row) (h : row.multiLineCells = []) (config : TableConfig)
    (i line : Nat) : row.content config i line = row.cellContent config i :=
  if_neg (not_not_intro h)

/-- Where another cell of several lines is left. -/
theorem lines_removeCell_iff_of_ne_nil (hne : row.multiLineCells.eraseIdx c ≠ []) :
    (row.removeCell c).lines config (columns - 1) = (row.withoutCell c).lines config (columns - 1) ↔
      (row.withoutCell c).lineCount = row.lineCount ∧
        ∀ line < row.lineCount, ∀ i, c ≤ i → i + 1 < columns →
          row.lineContent i line = row.lineContent (i + 1) line := by
  have hmulti : row.multiLineCells ≠ [] := fun hnil => hne (by rw [hnil, List.eraseIdx_nil])
  rw [lines_eq_iff, lineCount_removeCell, eq_comm]
  refine and_congr_right fun _ => forall₂_congr fun line _ => ?_
  constructor
  · intro h i hc hi
    have hcontent := h i (by omega)
    rwa [content_of_ne_nil (row.removeCell c) hmulti,
      content_of_ne_nil (row.withoutCell c) hne, lineContent_removeCell,
      lineContent_withoutCell, if_neg (Nat.not_lt.mpr hc)] at hcontent
  · intro h i hi
    rw [content_of_ne_nil (row.removeCell c) hmulti,
      content_of_ne_nil (row.withoutCell c) hne, lineContent_removeCell,
      lineContent_withoutCell]
    split
    case isTrue => rfl
    case isFalse hc => exact h i (Nat.not_lt.mp hc) (by omega)

/-- Where it was the only one. -/
theorem lines_removeCell_iff_of_eq_nil (hmulti : row.multiLineCells ≠ [])
    (hnil : row.multiLineCells.eraseIdx c = []) :
    (row.removeCell c).lines config (columns - 1) = (row.withoutCell c).lines config (columns - 1) ↔
      row.lineCount = 1 ∧
        ∀ i, i + 1 < columns → row.lineContent i 0 = row.cellContent config (i + 1) := by
  obtain rfl : c = 0 := ((List.eraseIdx_eq_nil_iff.mp hnil).resolve_left hmulti).2
  have hcount : (row.withoutCell 0).lineCount = 1 := if_pos (.inr (.inr hnil))
  rw [lines_eq_iff, lineCount_removeCell, hcount]
  refine and_congr_right fun hone => ?_
  rw [hone]
  constructor
  · intro h i hi
    have hcontent := h 0 Nat.one_pos i (by omega)
    rwa [content_of_ne_nil (row.removeCell 0) hmulti,
      content_of_eq_nil (row.withoutCell 0) hnil, lineContent_removeCell,
      cellContent_withoutCell, if_neg (Nat.not_lt_zero i)] at hcontent
  · intro h line hline i hi
    obtain rfl := Nat.lt_one_iff.mp hline
    rw [content_of_ne_nil (row.removeCell 0) hmulti,
      content_of_eq_nil (row.withoutCell 0) hnil, lineContent_removeCell,
      cellContent_withoutCell, if_neg (Nat.not_lt_zero i)]
    exact h i (by omega)

/-- Exactly these rows show the same lines over the other columns. -/
theorem lines_removeCell_iff :
    (row.removeCell c).lines config (columns - 1) = (row.withoutCell c).lines config (columns - 1) ↔
      row.SameWithout config columns c := by
  by_cases hend : row.multiLineCells.length ≤ c
  · have hsame : row.withoutCell c = row.removeCell c := by
      rw [Row.withoutCell, List.eraseIdx_of_length_le hend, Row.removeCell]
    exact iff_of_true (by rw [hsame]) (.inl hend)
  · have hmulti : row.multiLineCells ≠ [] := by
      rintro hnil
      rw [hnil] at hend
      exact hend (Nat.zero_le c)
    rw [Row.SameWithout, or_iff_right hend]
    by_cases hnil : row.multiLineCells.eraseIdx c = []
    · rw [lines_removeCell_iff_of_eq_nil hmulti hnil, or_iff_right fun h => h.1 hnil,
        and_iff_right hnil]
    · rw [lines_removeCell_iff_of_ne_nil hnil, or_iff_left fun h => hnil h.1, and_iff_right hnil]

/-- A border, or a text across all columns, is shown the same with any cells. -/
theorem shown_removeCell_iff :
    (row.removeCell c).shown config (columns - 1) = (row.withoutCell c).shown config (columns - 1) ↔
      (row.isSeparator = false → row.spanText = none → row.SameWithout config columns c) := by
  rw [Row.shown, Row.shown]
  cases hsep : row.isSeparator with
  | true => simp [Row.removeCell, Row.withoutCell, hsep]
  | false =>
    cases hspan : row.spanText with
    | some text => simp [Row.removeCell, Row.withoutCell, hsep, hspan]
    | none =>
      rw [← lines_removeCell_iff]
      simp [Row.removeCell, Row.withoutCell, hsep, hspan]

end

/-! ## The table -/

/-- What a table shows: its headers, the rows above them, and the rows below. -/
structure Shown where
  headers : List (Str × List Str)
  preHeaderRows : List Row
  rows : List ShownRow
  deriving DecidableEq

namespace TableBuilder

/-- What a table shows under its columns, if it has columns. -/
def shown (t : TableBuilder) : Option Shown :=
  if t.columns = [] then none
  else some ⟨t.columns.map fun col => (col.header, col.extraHeaders), t.preHeaderRows, t.shownRows⟩

/-- The same table, built without the column. -/
def withoutColumn (t : TableBuilder) (c : Nat) : TableBuilder :=
  { t with
    columns := t.columns.eraseIdx c
    rows := t.rows.map fun row => row.withoutCell c
    widthsCalculated := false }

/-- The same table, with only its plain cells removed. -/
def withoutPlainCells (t : TableBuilder) (c : Nat) : TableBuilder :=
  { t with
    columns := t.columns.eraseIdx c
    rows := t.rows.map fun row => row.removeCell c
    widthsCalculated := false }

theorem removeColumn_eq (t : TableBuilder) (c : Fin t.columns.length) :
    t.removeColumn c = .ok (t.withoutPlainCells c) :=
  if_neg (Nat.not_le.mpr c.isLt)

theorem eraseIdx_of_one {t : TableBuilder} {c : Fin t.columns.length} (h : t.columns.length = 1) :
    t.columns.eraseIdx c = [] :=
  List.eraseIdx_eq_nil_iff.mpr (.inr ⟨h, by omega⟩)

theorem shownRows_eq_iff (t : TableBuilder) (c : Fin t.columns.length) :
    (t.withoutPlainCells c).shownRows = (t.withoutColumn c).shownRows ↔
      ∀ row ∈ t.rows, row.isSeparator = false → row.spanText = none →
        row.SameWithout t.config t.columns.length c := by
  rw [shownRows, shownRows]
  simp only [withoutPlainCells, withoutColumn, List.map_map, List.map_inj_left,
    Function.comp_apply, List.length_eraseIdx_of_lt c.isLt]
  exact forall₂_congr fun row _ => shown_removeCell_iff

/-- A table without its only column shows nothing. -/
theorem shown_eq_iff (t : TableBuilder) (c : Fin t.columns.length) :
    (t.withoutPlainCells c).shown = (t.withoutColumn c).shown ↔
      t.columns.length = 1 ∨ ∀ row ∈ t.rows, row.isSeparator = false → row.spanText = none →
        row.SameWithout t.config t.columns.length c := by
  rw [← shownRows_eq_iff]
  by_cases hone : t.columns.length = 1
  · have hnil : t.columns.eraseIdx c = [] := eraseIdx_of_one hone
    have hshown : (t.withoutPlainCells c).shown = none := if_pos hnil
    have hshown' : (t.withoutColumn c).shown = none := if_pos hnil
    rw [hshown, hshown']
    exact iff_of_true rfl (.inl hone)
  · have hne : t.columns.eraseIdx c ≠ [] := by
      intro hnil
      rcases List.eraseIdx_eq_nil_iff.mp hnil with hcols | ⟨hlen, -⟩
      · exact absurd c.isLt (by simp [hcols])
      · exact hone hlen
    have hshown (u : TableBuilder) (hu : u.columns = t.columns.eraseIdx c) : u.shown = some
        ⟨(t.columns.eraseIdx c).map fun col => (col.header, col.extraHeaders), u.preHeaderRows,
          u.shownRows⟩ := by
      rw [shown, hu, if_neg hne]
    rw [or_iff_right hone, hshown (t.withoutPlainCells c) rfl, hshown (t.withoutColumn c) rfl,
      Option.some_inj, Shown.mk.injEq]
    exact ⟨fun h => h.2.2, fun h => ⟨rfl, rfl, h⟩⟩

end TableBuilder

/-! ## The widths -/

section

variable {col : Column} {columns : List Column} {lines lines' : List Str}
  {texts texts' : List (List Str)}

theorem displayWidth_nonneg (text : Str) : 0 ≤ displayWidth text := by
  rw [displayWidth]
  split
  · exact Int.natCast_nonneg _
  · exact Int.natCast_nonneg _

theorem Column.le_widen (col : Column) (lines : List Str) : col.width ≤ (col.widen lines).width :=
  le_foldl_max

/-- Empty lines at the end do not count. -/
theorem Column.widen_congr (hcol : 0 ≤ col.width)
    (h : ∀ line, lines.getD line [] = lines'.getD line []) : col.widen lines = col.widen lines' := by
  have hle {lines lines' : List Str} (h : ∀ line, lines.getD line [] = lines'.getD line []) :
      (col.widen lines).width ≤ (col.widen lines').width := by
    refine foldl_max_le_iff.mpr ⟨col.le_widen lines', List.forall_mem_map.mpr fun text htext => ?_⟩
    obtain ⟨line, hline, rfl⟩ := List.getElem_of_mem htext
    have hsame : lines'.getD line [] = lines[line] := by
      rw [← h line, List.getD_eq_getElem lines [] hline]
    rcases Nat.lt_or_ge line lines'.length with hlt | hge
    · rw [List.getD_eq_getElem lines' [] hlt] at hsame
      rw [← hsame]
      exact le_foldl_max_of_mem (List.mem_map_of_mem (List.getElem_mem hlt))
    · rw [List.getD_eq_default lines' [] hge] at hsame
      rw [← hsame]
      exact hcol.trans (col.le_widen lines')
  exact congrArg (fun w => { col with width := w })
    (le_antisymm (hle h) (hle fun line => (h line).symm))

theorem widen_nonneg (h : ∀ col ∈ columns, 0 ≤ col.width) (texts : List (List Str)) :
    ∀ col ∈ widen columns texts, 0 ≤ col.width := by
  intro col hcol
  obtain ⟨i, hi, rfl⟩ := List.getElem_of_mem hcol
  rw [length_widen] at hi
  rw [getElem_widen columns texts i hi]
  exact (h _ (List.getElem_mem hi)).trans (Column.le_widen _ _)

/-- Texts that are the same under each column make the columns equally wide. -/
theorem widen_congr (hnonneg : ∀ col ∈ columns, 0 ≤ col.width)
    (h : ∀ i < columns.length, ∀ line,
      (texts.getD i []).getD line [] = (texts'.getD i []).getD line []) :
    widen columns texts = widen columns texts' := by
  refine List.ext_getElem (by simp) fun i hi _ => ?_
  rw [length_widen] at hi
  rw [getElem_widen columns texts i hi, getElem_widen columns texts' i hi]
  exact Column.widen_congr (hnonneg _ (List.getElem_mem hi)) (h i hi)

/-- The cells of several lines are in a row of their own kind, and there is more than one of them. -/
def Row.ManyCells (row : Row) : Prop :=
  row.multiLineCells ≠ [] →
    row.isSeparator = false ∧ row.spanText = none ∧ 1 < row.multiLineCells.length

end

/-- The lines of a cell end before `lineCount`. -/
theorem lineContent_of_le (row : Row) {i line : Nat} (hspan : row.spanText = none)
    (hsep : row.isSeparator = false) (h : row.lineCount ≤ line) : row.lineContent i line = [] := by
  rw [Row.lineContent]
  rcases Nat.lt_or_ge i row.multiLineCells.length with hi | hi
  · have hmulti : row.multiLineCells ≠ [] := List.ne_nil_of_length_pos (Nat.zero_lt_of_lt hi)
    have hcount : row.multiLineCells[i].length ≤ row.lineCount := by
      rw [Row.lineCount, if_neg (by simp [hspan, hsep, hmulti])]
      refine le_trans (le_foldl_max_of_mem ?_) (le_max_right 1 _)
      exact List.mem_map_of_mem (List.getElem_mem hi)
    rw [List.getD_eq_getElem _ _ hi, List.getD_eq_default _ _ (hcount.trans h)]
  · rw [List.getD_eq_default _ _ hi]
    rfl

/-- A row that is the same without a column makes the other columns equally wide. -/
theorem widen_removeCell {row : Row} {config : TableConfig} {columns : List Column} {c : Nat}
    (hnonneg : ∀ col ∈ columns, 0 ≤ col.width) (hmany : row.ManyCells)
    (hsame : row.isSeparator = false → row.spanText = none →
      row.SameWithout config (columns.length + 1) c) :
    widen columns (row.removeCell c).texts = widen columns (row.withoutCell c).texts := by
  by_cases hmulti : row.multiLineCells = []
  · have hrow : row.withoutCell c = row.removeCell c := by
      rw [Row.withoutCell, hmulti, List.eraseIdx_nil, Row.removeCell, hmulti]
    rw [hrow]
  · obtain ⟨hsep, hspan, hlength⟩ := hmany hmulti
    have hne : row.multiLineCells.eraseIdx c ≠ [] := by
      intro hnil
      rcases List.eraseIdx_eq_nil_iff.mp hnil with h | ⟨h, -⟩
      · exact hmulti h
      · omega
    obtain ⟨hcount, hlines⟩ := (lines_removeCell_iff_of_ne_nil hne).mp
      (lines_removeCell_iff.mpr (hsame hsep hspan))
    have htexts : (row.removeCell c).texts = row.multiLineCells := if_pos hmulti
    have htexts' : (row.withoutCell c).texts = row.multiLineCells.eraseIdx c := if_pos hne
    rw [htexts, htexts']
    refine widen_congr hnonneg fun i hi line => ?_
    change row.lineContent i line = (row.withoutCell c).lineContent i line
    rcases Nat.lt_or_ge line row.lineCount with hlt | hge
    · rw [lineContent_withoutCell]
      split
      case isTrue => rfl
      case isFalse hc => exact hlines line hlt i (Nat.not_lt.mp hc) (Nat.succ_lt_succ hi)
    · rw [lineContent_of_le row hspan hsep hge]
      exact (lineContent_of_le (row.withoutCell c) hspan hsep (hcount.trans_le hge)).symm

namespace TableBuilder

/-! ## The text -/

/-- The text depends on the rows by their number, and by what they show. -/
theorem tableText_congr {t : TableBuilder} {rows : List Row} (hlength : t.rows.length = rows.length)
    (hshown : t.shownRows = { t with rows := rows }.shownRows) :
    t.tableText = { t with rows := rows }.tableText := by
  have hnumber : t.rowNumWidth = { t with rows := rows }.rowNumWidth := by
    rw [rowNumWidth, rowNumWidth, hlength]
  have hnil : t.rows = [] ↔ rows = [] := by
    rw [← List.length_eq_zero_iff, hlength, List.length_eq_zero_iff]
  have hborder : t.getBorderLine = { t with rows := rows }.getBorderLine := by
    funext style
    rw [getBorderLine, getBorderLine, hnumber]
  have hspan : t.spanLine = { t with rows := rows }.spanLine := by
    funext text alignment
    rw [spanLine, spanLine, totalContentWidth, totalContentWidth, hnumber]
    rfl
  have hnumberText : t.numberText = { t with rows := rows }.numberText := by
    funext text alignment
    rw [numberText, numberText, hnumber]
    rfl
  have hpre : t.preHeaderLines = { t with rows := rows }.preHeaderLines := by
    funext row
    rw [preHeaderLines, preHeaderLines, hborder, hspan]
  have hrow : t.rowText = { t with rows := rows }.rowText := by
    funext rowIdx shown
    cases shown with
    | separator style => exact congrFun hborder style
    | span text => exact congrFun (congrFun hspan text) .center
    | lines lines =>
      rw [rowText, rowText, hnumberText]
      rfl
  have hheader : t.headerLine = { t with rows := rows }.headerLine := by
    rw [headerLine, headerLine, hnumberText]
    rfl
  have hextra : t.extraHeaderLines = { t with rows := rows }.extraHeaderLines := by
    rw [extraHeaderLines, extraHeaderLines, hnumberText]
    rfl
  have hnoData : t.noDataLine = { t with rows := rows }.noDataLine := by
    rw [noDataLine, noDataLine, totalContentWidth, totalContentWidth, hnumber]
    rfl
  rw [tableText, tableText, hborder, hpre, hheader, hextra, hnoData, hrow, hshown]
  simp only [hnil]

/-- The columns are equally wide, too. -/
theorem sizedColumns_withoutPlainCells (t : TableBuilder) (c : Fin t.columns.length)
    (hmany : ∀ row ∈ t.rows, row.ManyCells) (hsame : ∀ row ∈ t.rows, row.isSeparator = false →
      row.spanText = none → row.SameWithout t.config t.columns.length c) :
    (t.withoutPlainCells c).sizedColumns = (t.withoutColumn c).sizedColumns := by
  have hrows (rows : List Row) (columns : List Column) (hmem : ∀ row ∈ rows, row ∈ t.rows)
      (hlength : columns.length + 1 = t.columns.length) (hnonneg : ∀ col ∈ columns, 0 ≤ col.width) :
      (rows.map fun row => row.removeCell c).foldl (fun columns row => widen columns row.texts)
          columns =
        (rows.map fun row => row.withoutCell c).foldl (fun columns row => widen columns row.texts)
          columns := by
    induction rows generalizing columns with
    | nil => rfl
    | cons row rows ih =>
      have hrow := hmem row List.mem_cons_self
      have hsame' : row.isSeparator = false → row.spanText = none →
          row.SameWithout t.config (columns.length + 1) c := by
        rw [hlength]
        exact hsame row hrow
      have hwiden := widen_removeCell hnonneg (hmany row hrow) hsame'
      rw [List.map_cons, List.map_cons, List.foldl_cons, List.foldl_cons, hwiden]
      exact ih _ (fun row' h => hmem row' (List.mem_cons_of_mem row h)) (by rwa [length_widen])
        (widen_nonneg hnonneg _)
  have hspans (columns : List Column) :
      (t.rows.map fun row => row.removeCell c).foldl ensureFits columns =
        (t.rows.map fun row => row.withoutCell c).foldl ensureFits columns := by
    rw [List.foldl_map, List.foldl_map]
    rfl
  have hheaders : ∀ col ∈ (t.columns.eraseIdx c).map Column.fitHeaders, 0 ≤ col.width :=
    List.forall_mem_map.mpr fun col _ => (displayWidth_nonneg col.header).trans (Column.le_widen _ _)
  have hlength : ((t.columns.eraseIdx c).map Column.fitHeaders).length + 1 = t.columns.length := by
    rw [List.length_map, List.length_eraseIdx_of_lt c.isLt]
    exact Nat.sub_add_cancel (Nat.one_le_of_lt c.isLt)
  rw [sizedColumns, sizedColumns, withoutPlainCells, withoutColumn]
  dsimp only
  rw [hspans, hrows t.rows _ (fun _ h => h) hlength hheaders]

/-- Then the whole text is that of a table built without the column. -/
theorem toTableString_withoutPlainCells (t : TableBuilder) (c : Fin t.columns.length)
    (hmany : ∀ row ∈ t.rows, row.ManyCells) (hsame : ∀ row ∈ t.rows, row.isSeparator = false →
      row.spanText = none → row.SameWithout t.config t.columns.length c) :
    (t.withoutPlainCells c).toTableString = (t.withoutColumn c).toTableString := by
  have hshown : (t.withoutPlainCells c).shownRows = (t.withoutColumn c).shownRows :=
    (shownRows_eq_iff t c).mpr hsame
  have hlength : (t.withoutPlainCells c).rows.length = (t.withoutColumn c).rows.length := by
    simp [withoutPlainCells, withoutColumn]
  rw [toTableString, toTableString]
  by_cases hnil : t.columns.eraseIdx c = []
  · rw [if_pos (show (t.withoutPlainCells c).columns = [] from hnil),
      if_pos (show (t.withoutColumn c).columns = [] from hnil)]
  · rw [if_neg (show (t.withoutPlainCells c).columns ≠ [] from hnil),
      if_neg (show (t.withoutColumn c).columns ≠ [] from hnil), calculateWidths, calculateWidths,
      sizedColumns_withoutPlainCells t c hmany hsame]
    cases hauto : t.autoSize with
    | false =>
      rw [if_pos (.inl (by simp [withoutPlainCells, hauto])),
        if_pos (.inl (by simp [withoutColumn, hauto]))]
      exact tableText_congr hlength hshown
    | true =>
      rw [if_neg (by simp [withoutPlainCells, hauto, hnil]),
        if_neg (by simp [withoutColumn, hauto, hnil])]
      have hcount : (t.withoutColumn c).sizedColumns.length = (t.withoutColumn c).columns.length :=
        length_sizedColumns hnil
      refine tableText_congr (t := { t.withoutPlainCells c with
        columns := (t.withoutColumn c).sizedColumns, widthsCalculated := true }) hlength ?_
      rw [shownRows, shownRows] at hshown ⊢
      dsimp only
      rw [hcount]
      exact hshown

/-- After `removeColumn` the table shows what it would show if it had been built without the column.
Where no cell of several lines is alone in its row, or hidden, the text is the same, too. -/
structure RemovalShows (t : TableBuilder) (c : Nat) : Prop where
  shown : ∃ removed, t.removeColumn c = .ok removed ∧ removed.shown = (t.withoutColumn c).shown
  text : (∀ row ∈ t.rows, row.ManyCells) →
    ∃ removed, t.removeColumn c = .ok removed ∧
      removed.toTableString = (t.withoutColumn c).toTableString

/-- Removing a column shows what it should exactly where no column is left, or each row with cells of
several lines is the same without the one that is removed. -/
theorem removeColumn_shows_iff (t : TableBuilder) (c : Fin t.columns.length) :
    t.RemovalShows c ↔ t.columns.length = 1 ∨ ∀ row ∈ t.rows, row.isSeparator = false →
      row.spanText = none → row.SameWithout t.config t.columns.length c := by
  rw [← shown_eq_iff]
  constructor
  · rintro ⟨⟨removed, hok, hshown⟩, -⟩
    obtain rfl := Except.ok.inj ((removeColumn_eq t c).symm.trans hok)
    exact hshown
  · intro hshown
    refine ⟨⟨_, removeColumn_eq t c, hshown⟩, fun hmany => ⟨_, removeColumn_eq t c, ?_⟩⟩
    rcases (shown_eq_iff t c).mp hshown with hone | hsame
    · have hnil : t.columns.eraseIdx c = [] := eraseIdx_of_one hone
      rw [toTableString, toTableString, if_pos (show (t.withoutPlainCells c).columns = [] from hnil),
        if_pos (show (t.withoutColumn c).columns = [] from hnil)]
    · exact toTableString_withoutPlainCells t c hmany hsame

/-- Two columns, and a row with a cell of several lines in each. -/
def twoColumns : TableBuilder :=
  { columns := [⟨ascii "GPU", [], 1, .left⟩, ⟨ascii "Fan", [], 1, .left⟩]
    rows := [{ multiLineCells := [[ascii "gpu0"], [ascii "fan0"]] }] }

/-- Without the first column, its cell is shown under the second one. -/
theorem removeColumn_slides : ¬ twoColumns.RemovalShows 0 ∧
    (twoColumns.withoutPlainCells 0).toTableString ≠ (twoColumns.withoutColumn 0).toTableString := by
  refine ⟨?_, by decide⟩
  rintro ⟨⟨removed, hok, hshown⟩, -⟩
  obtain rfl := Except.ok.inj hok
  exact absurd hshown (by decide)

end TableBuilder

end Table

end XpuManager
