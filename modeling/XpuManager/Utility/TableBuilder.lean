import Mathlib.Algebra.Ring.Int.Defs
import Mathlib.Data.List.Basic
import Mathlib.Algebra.BigOperators.Group.List.Basic

/-! # Tables

`TableBuilder` (`utility/table/table_builder.cpp`) collects the columns and rows of a table, and prints
it as text. -/

namespace XpuManager

namespace Table

/-- The bytes of a string. -/
abbrev Str := List UInt8

/-- The bytes of a literal. -/
def ascii (text : String) : Str := text.toList.map fun c => UInt8.ofNat c.toNat

inductive Align where
  | left
  | right
  | center
  deriving DecidableEq

inductive BorderStyle where
  | normal
  | heavy
  | double
  | none
  deriving DecidableEq

/-- A row of the table, of any of its kinds. -/
structure Row where
  cells : List Str := []
  /-- The keys differ; they are in the order in which the map gives them. -/
  jsonMetadata : List (Str × Str) := []
  multiLineCells : List (List Str) := []
  spanText : Option Str := none
  spanAlign : Align := .center
  borderStyle : BorderStyle := .normal
  isSeparator : Bool := false
  deriving DecidableEq

/-- How the table looks. -/
structure TableConfig where
  borderChar : UInt8 := 32
  cornerChar : UInt8 := 32
  verticalChar : UInt8 := 32
  emptyCellText : Str := []
  noDataText : Str := ascii "No data"
  showRowNumbers : Bool := false
  maxCellWidth : Int := 50

/-- A column with its headers, its width and its alignment. -/
structure Column where
  header : Str
  extraHeaders : List Str := []
  width : Int
  alignment : Align
  deriving DecidableEq

/-- The table as it is built. -/
structure TableBuilder where
  columns : List Column := []
  rows : List Row := []
  preHeaderRows : List Row := []
  autoSize : Bool := true
  suppressHeaderSep : Bool := true
  suppressHeaderColSep : Bool := true
  suppressDataColSep : Bool := true
  widthsCalculated : Bool := false
  config : TableConfig := {}

/-! ## Widths -/

/-- The byte does not continue a character of several bytes. -/
def isStart (c : UInt8) : Bool := c &&& 0xC0 ≠ 0x80

/-- `displayWidth`. What is looked up in `widthCache` was computed before. -/
def displayWidth (text : Str) : Int :=
  if text.all (· ≤ 127) then text.length else (text.countP isStart : Nat)

/-- The texts of a cell make its column as wide as they are. -/
def Column.widen (col : Column) (lines : List Str) : Column :=
  { col with width := (lines.map displayWidth).foldl max col.width }

/-- The loop over the cells of a row. -/
def widen : List Column → List (List Str) → List Column
  | col :: columns, lines :: cells => col.widen lines :: widen columns cells
  | columns, _ => columns

/-- The texts in the cells of a row. -/
def Row.texts (row : Row) : List (List Str) :=
  if row.multiLineCells ≠ [] then row.multiLineCells else row.cells.map fun cell => [cell]

/-- A column that is as wide as its headers. -/
def Column.fitHeaders (col : Column) : Column :=
  ({ col with width := displayWidth col.header } : Column).widen col.extraHeaders

/-- The limit, and the padding. -/
def Column.limit (maxCellWidth : Int) (col : Column) : Column :=
  { col with width := min col.width (maxCellWidth - 2) + 2 }

/-- `computeContentWidth`. -/
def contentWidth (columns : List Column) : Int := (columns.map fun col => col.width + 3).sum - 3

/-- `columns.back().width += deficit`. -/
def widenLast (columns : List Column) (deficit : Int) : List Column :=
  columns.modify (columns.length - 1) fun col => { col with width := col.width + deficit }

/-- `ensureFits`, for the row's text that spans all columns. -/
def ensureFits (columns : List Column) (row : Row) : List Column :=
  match row.spanText with
  | none => columns
  | some text =>
    let deficit := displayWidth text - contentWidth columns
    if 0 < deficit then widenLast columns deficit else columns

namespace TableBuilder

/-- The columns that `calculateWidths` leaves, where it does not return at once. -/
def sizedColumns (t : TableBuilder) : List Column :=
  let columns := t.columns.map Column.fitHeaders
  let columns := t.rows.foldl (fun columns row => widen columns row.texts) columns
  let columns := columns.map (Column.limit t.config.maxCellWidth)
  let columns := t.preHeaderRows.foldl ensureFits columns
  t.rows.foldl ensureFits columns

/-- How wide the columns are. -/
def calculateWidths (t : TableBuilder) : TableBuilder :=
  if ¬t.autoSize ∨ t.columns = [] ∨ t.widthsCalculated then t
  else { t with columns := t.sizedColumns, widthsCalculated := true }

end TableBuilder

/-! ## Texts on a line -/

def spaces (n : Int) : Str := List.replicate n.toNat 32

/-- The characters of a text up to a width: the loop behind the ellipsis. -/
def truncated (width : Int) : Str → Int → Str
  | [], _ => []
  | c :: text, accumulatedWidth =>
    if isStart c then
      if width ≤ accumulatedWidth then [] else c :: truncated width text (accumulatedWidth + 1)
    else c :: truncated width text accumulatedWidth

/-- `alignTextDirect`; the result is what is appended. A negative width is a very large size. -/
def alignTextDirect (text : Str) (width : Int) (alignment : Align) : Str :=
  let textWidth := displayWidth text
  if width < textWidth then
    if 3 ≤ width then truncated (width - 3) text 0 ++ ascii "..."
    else if width < 0 then text
    else text.take width.toNat
  else
    let padding := width - textWidth
    match alignment with
    | .left => text ++ spaces padding
    | .right => spaces padding ++ text
    | .center => spaces (padding.tdiv 2) ++ text ++ spaces (padding - padding.tdiv 2)

structure BorderChars where
  horizontal : Str
  vertical : Str
  corner : Str

/-- The characters of a border, by its style. -/
def getBorderChars (config : TableConfig) : BorderStyle → BorderChars
  | .heavy | .double => ⟨ascii "=", ascii "|", ascii "+"⟩
  | .none => ⟨ascii " ", ascii " ", ascii " "⟩
  | .normal => ⟨[config.borderChar], [config.verticalChar], [config.cornerChar]⟩

/-- `std::to_string` of a size. -/
def decimal (n : Nat) : Str := ascii (toString n)

/-! ## What is shown -/

/-- `lineCount`. -/
def Row.lineCount (row : Row) : Nat :=
  if row.spanText.isSome ∨ row.isSeparator ∨ row.multiLineCells = [] then 1
  else max 1 ((row.multiLineCells.map List.length).foldl max 0)

/-- A line of a cell, or nothing below its last line. -/
def Row.lineContent (row : Row) (i line : Nat) : Str := (row.multiLineCells.getD i []).getD line []

/-- A plain cell, or the text for one that is empty. -/
def Row.cellContent (config : TableConfig) (row : Row) (i : Nat) : Str :=
  if row.cells.getD i [] ≠ [] then row.cells.getD i [] else config.emptyCellText

/-- `cellContent`: what a line of the row shows under a column. -/
def Row.content (config : TableConfig) (row : Row) (i line : Nat) : Str :=
  if row.multiLineCells ≠ [] then row.lineContent i line else row.cellContent config i

/-- What a row shows: a border, a text across all columns, or lines with a text for each column. -/
inductive ShownRow where
  | separator (style : BorderStyle)
  | span (text : Str)
  | lines (lines : List (List Str))
  deriving DecidableEq

/-- The lines of a row, over so many columns. -/
def Row.lines (config : TableConfig) (columns : Nat) (row : Row) : List (List Str) :=
  (List.range row.lineCount).map fun line =>
    (List.range columns).map fun i => row.content config i line

def Row.shown (config : TableConfig) (columns : Nat) (row : Row) : ShownRow :=
  if row.isSeparator then .separator row.borderStyle
  else match row.spanText with
    | some text => .span text
    | none => .lines (row.lines config columns)

namespace TableBuilder

variable (t : TableBuilder)

/-- What the rows show under each column. -/
def shownRows : List ShownRow := t.rows.map (Row.shown t.config t.columns.length)

/-! ## The text -/

/-- `" " + verticalChar`. -/
def bar : Str := [32, t.config.verticalChar]

/-- The width of the column with the row numbers. -/
def rowNumWidth : Int :=
  if t.config.showRowNumbers then max 3 ((decimal t.rows.length).length + 2) else 0

/-- A border from side to side. -/
def getBorderLine (style : BorderStyle) : Str :=
  let chars := getBorderChars t.config style
  let repeated (n : Int) : Str := (List.replicate n.toNat chars.horizontal).flatten
  chars.corner ++
    (if t.config.showRowNumbers then repeated (t.rowNumWidth + 2) ++ chars.corner else []) ++
    t.columns.flatMap (fun col => repeated (col.width + 2) ++ chars.corner) ++ ascii "\n"

/-- `totalContentWidth`: the width of all columns, with the row numbers. -/
def totalContentWidth : Int :=
  (if t.config.showRowNumbers then t.rowNumWidth + 3 else 0) +
    (t.columns.map fun col => col.width + 3).sum - 3

/-- A line with one text from side to side. -/
def spanLine (text : Str) (alignment : Align) : Str :=
  [t.config.verticalChar, 32] ++ alignTextDirect text t.totalContentWidth alignment ++ t.bar ++
    ascii "\n"

/-- The lines of a row above the header. -/
def preHeaderLines (row : Row) : Str :=
  (match row.spanText with
    | some text => t.spanLine text row.spanAlign
    | none => []) ++
  if row.borderStyle ≠ .none then t.getBorderLine row.borderStyle else []

/-- The texts of one line under the columns. -/
def cellTexts (suppressColSep : Bool) (contents : List Str) : Str :=
  (t.columns.zip contents).zipIdx.flatMap fun ((col, content), i) =>
    [32] ++ alignTextDirect content col.width col.alignment ++
      if ¬suppressColSep ∨ i = t.columns.length - 1 then t.bar else ascii "  "

/-- The column of the row numbers, where there is one. -/
def numberText (text : Str) (alignment : Align) : Str :=
  if t.config.showRowNumbers then [32] ++ alignTextDirect text t.rowNumWidth alignment ++ t.bar
  else []

/-- The line with the headers. -/
def headerLine : Str :=
  [t.config.verticalChar] ++ t.numberText (ascii "#") .center ++
    t.cellTexts t.suppressHeaderColSep (t.columns.map Column.header) ++ ascii "\n"

/-- Further lines of the headers; the columns are always separated. -/
def extraHeaderLines : Str :=
  let maxExtraHeaders := (t.columns.map fun col => col.extraHeaders.length).foldl max 0
  (List.range maxExtraHeaders).flatMap fun line =>
    [t.config.verticalChar] ++ t.numberText [] .left ++
      t.cellTexts false (t.columns.map fun col => col.extraHeaders.getD line []) ++ ascii "\n"

/-- The line of a table without rows. -/
def noDataLine : Str :=
  let padding := t.totalContentWidth - t.config.noDataText.length
  [t.config.verticalChar, 32] ++ spaces (max 0 (padding.tdiv 2)) ++ t.config.noDataText ++
    spaces (max 0 (padding - padding.tdiv 2)) ++ t.bar ++ ascii "\n"

/-- A data row. Only its first line has the number. -/
def rowText (rowIdx : Nat) : ShownRow → Str
  | .separator style => t.getBorderLine style
  | .span text => t.spanLine text .center
  | .lines lines => lines.zipIdx.flatMap fun (contents, line) =>
    [t.config.verticalChar] ++
      t.numberText (if line = 0 then decimal (rowIdx + 1) else []) .right ++
      t.cellTexts t.suppressDataColSep contents ++ ascii "\n"

/-- The table, where the widths of its columns are known. -/
def tableText : Str :=
  t.getBorderLine .normal ++ t.preHeaderRows.flatMap t.preHeaderLines ++ t.headerLine ++
    t.extraHeaderLines ++ (if t.suppressHeaderSep then [] else t.getBorderLine .normal) ++
    (if t.rows = [] then t.noDataLine
      else t.shownRows.zipIdx.flatMap fun (shown, rowIdx) => t.rowText rowIdx shown) ++
    t.getBorderLine .normal

/-- The table as text. -/
def toTableString : Str :=
  if t.columns = [] then ascii "[Empty Table - No Columns]\n" else t.calculateWidths.tableText

end TableBuilder

/-! ## Changes -/

/-- An exception that an operation throws. -/
inductive TableError where
  | invalidArgument (what : Str)
  | outOfRange (what : Str)
  deriving DecidableEq

namespace TableBuilder

variable (t : TableBuilder)

/-- `addRow` and `addRowFromContainer`. -/
def addRow (cells : List Str) : Except TableError TableBuilder :=
  if t.columns ≠ [] ∧ cells.length ≠ t.columns.length then
    .error (.invalidArgument (ascii "Row has " ++ decimal cells.length ++
      ascii " cells but table has " ++ decimal t.columns.length ++ ascii " columns"))
  else .ok { t with rows := t.rows ++ [{ cells := cells }], widthsCalculated := false }

/-- A row whose cells have several lines. -/
def addMultiLineRow (cellLines : List (List Str)) : TableBuilder :=
  { t with rows := t.rows ++ [{ multiLineCells := cellLines }], widthsCalculated := false }

/-- A row with one text from side to side. -/
def addSpanRow (text : Str) (style : BorderStyle) : TableBuilder :=
  { t with
    rows := t.rows ++ [{ spanText := some text, borderStyle := style }]
    widthsCalculated := false }

/-- A row that is a border. -/
def addSeparator (style : BorderStyle) : TableBuilder :=
  { t with rows := t.rows ++ [{ isSeparator := true, borderStyle := style }] }

/-- A column is taken out. -/
def removeColumn (colIndex : Nat) : Except TableError TableBuilder :=
  if t.columns.length ≤ colIndex then .error (.outOfRange (ascii "Column index out of range"))
  else .ok { t with
    columns := t.columns.eraseIdx colIndex
    rows := t.rows.map fun row => { row with cells := row.cells.eraseIdx colIndex }
    widthsCalculated := false }

/-- The widths of the rows so far are kept. -/
def lockWidths : TableBuilder := { t.calculateWidths with widthsCalculated := true }

end TableBuilder

end Table

end XpuManager
