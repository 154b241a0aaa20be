import Mathlib.Algebra.Order.BigOperators.Group.List
import XpuManager.Lib.Lines
import XpuManager.Utility.TableColumns

/-! # The frame of a table

Every line of a table is as wide as `getTotalWidth` says where every text takes exactly the width
that it is given. -/

namespace XpuManager

namespace Table

open Lines RunningMax

/-! ## Widths of texts -/

section

variable {text text' : Str} {width acc : Int} {alignment : Align}

theorem isStart_of_le {c : UInt8} (h : c ≤ 127) : isStart c = true := by
  have hall : ∀ n < 128, isStart (UInt8.ofNat n) = true := by decide
  have := hall c.toNat (Nat.lt_succ_of_le (UInt8.le_iff_toNat_le.mp h))
  rwa [UInt8.ofNat_toNat] at this

/-- The width is the number of bytes that start a character. -/
theorem displayWidth_eq (text : Str) : displayWidth text = (text.countP isStart : Nat) := by
  rw [displayWidth]
  split
  case isTrue h =>
    have hall : ∀ c ∈ text, isStart c = true := fun c hc =>
      isStart_of_le (of_decide_eq_true (List.all_eq_true.mp h c hc))
    rw [List.countP_eq_length.mpr hall]
  case isFalse => rfl

@[simp] theorem displayWidth_nil : displayWidth [] = 0 := rfl

@[simp] theorem displayWidth_append (text text' : Str) :
    displayWidth (text ++ text') = displayWidth text + displayWidth text' := by
  rw [displayWidth_eq, displayWidth_eq, displayWidth_eq, List.countP_append, Nat.cast_add]

theorem displayWidth_cons (c : UInt8) (text : Str) :
    displayWidth (c :: text) = displayWidth [c] + displayWidth text :=
  displayWidth_append [c] text

theorem displayWidth_singleton (c : UInt8) : displayWidth [c] = if isStart c then 1 else 0 := by
  rw [displayWidth_eq, List.countP_singleton]
  split <;> rfl

theorem displayWidth_singleton_le (c : UInt8) : displayWidth [c] ≤ 1 := by
  rw [displayWidth_singleton]
  split <;> decide

theorem displayWidth_singleton_eq_iff {c : UInt8} : displayWidth [c] = 1 ↔ isStart c = true := by
  rw [displayWidth_singleton]
  split
  case isTrue h => simp [h]
  case isFalse h => simp [h]

theorem displayWidth_le_length (text : Str) : displayWidth text ≤ text.length := by
  rw [displayWidth_eq]
  exact Int.ofNat_le.mpr List.countP_le_length

theorem displayWidth_flatMap {α : Type} (xs : List α) (f : α → Str) :
    displayWidth (xs.flatMap f) = (xs.map fun x => displayWidth (f x)).sum := by
  induction xs with
  | nil => rfl
  | cons x xs ih => rw [List.flatMap_cons, displayWidth_append, ih, List.map_cons, List.sum_cons]

theorem displayWidth_repeated (n : Int) (text : Str) :
    displayWidth (List.replicate n.toNat text).flatten = max n 0 * displayWidth text := by
  rw [← Int.toNat_eq_max n]
  induction n.toNat with
  | zero => simp
  | succ k ih =>
    rw [List.replicate_succ, List.flatten_cons, displayWidth_append, ih, Nat.cast_succ, add_mul,
      one_mul, add_comm]

@[simp] theorem displayWidth_spaces (n : Int) : displayWidth (spaces n) = max n 0 := by
  have h := displayWidth_repeated n [32]
  rwa [displayWidth_singleton_eq_iff.mpr (by decide), mul_one, List.flatten_replicate_singleton] at h

/-- The loop stops after so many characters. -/
theorem displayWidth_truncated (h : acc ≤ width) (text : Str) :
    displayWidth (truncated width text acc) = min (width - acc) (displayWidth text) := by
  induction text generalizing acc with
  | nil =>
    rw [truncated, displayWidth_nil]
    omega
  | cons c text ih =>
    have hnonneg := displayWidth_nonneg text
    rw [truncated, displayWidth_cons c text, displayWidth_singleton]
    split
    case isTrue =>
      split
      case isTrue =>
        rw [displayWidth_nil]
        omega
      case isFalse hlt =>
        rw [displayWidth_cons, displayWidth_singleton, if_pos ‹_›, ih (by omega)]
        omega
    case isFalse hstart =>
      rw [displayWidth_cons, displayWidth_singleton, if_neg hstart, ih h]
      omega

/-- A text takes exactly the width: there is room for it, or for an ellipsis, or it is cut off after
as many bytes, and these are as many characters. -/
def Flush (text : Str) (width : Int) : Prop :=
  displayWidth text ≤ width ∨ 3 ≤ width ∨ 0 ≤ width ∧ displayWidth (text.take width.toNat) = width

instance : Decidable (Flush text width) := inferInstanceAs (Decidable (_ ∨ _ ∨ _))

theorem Flush.nonneg (h : Flush text width) : 0 ≤ width := by
  have hnonneg := displayWidth_nonneg text
  rcases h with hle | hle | ⟨hle, -⟩ <;> omega

theorem flush_nil (h : 0 ≤ width) : Flush [] width := .inl h

/-- Where there is room for a text, it is padded. -/
theorem displayWidth_alignTextDirect_of_le (h : displayWidth text ≤ width) :
    displayWidth (alignTextDirect text width alignment) = width := by
  rw [alignTextDirect]
  dsimp only
  rw [if_neg (not_lt.mpr h)]
  cases alignment with
  | left =>
    rw [displayWidth_append, displayWidth_spaces]
    omega
  | right =>
    rw [displayWidth_append, displayWidth_spaces]
    omega
  | center =>
    rw [displayWidth_append, displayWidth_append, displayWidth_spaces, displayWidth_spaces,
      Int.tdiv_eq_ediv_of_nonneg (by omega)]
    omega

/-- A text takes the width that it is given exactly where it is flush. -/
theorem displayWidth_alignTextDirect_eq_iff (alignment : Align) :
    displayWidth (alignTextDirect text width alignment) = width ↔ Flush text width := by
  have hnonneg := displayWidth_nonneg text
  by_cases hle : displayWidth text ≤ width
  · exact iff_of_true (displayWidth_alignTextDirect_of_le hle) (.inl hle)
  · rw [alignTextDirect]
    dsimp only
    rw [if_pos (not_le.mp hle)]
    split
    case isTrue hroom =>
      have hdots : displayWidth (ascii "...") = 3 := rfl
      refine iff_of_true ?_ (.inr (.inl hroom))
      rw [displayWidth_append, displayWidth_truncated (by omega), hdots]
      omega
    case isFalse hroom =>
      split
      case isTrue hneg => exact iff_of_false (by omega) fun h => absurd h.nonneg (by omega)
      case isFalse hpos =>
        rw [Flush, or_iff_right hle, or_iff_right hroom, and_iff_right (not_lt.mp hpos)]

/-- No text takes more than the width that it is given. -/
theorem displayWidth_alignTextDirect_le (h : 0 ≤ width) (text : Str) (alignment : Align) :
    displayWidth (alignTextDirect text width alignment) ≤ width := by
  by_cases hflush : Flush text width
  · exact ((displayWidth_alignTextDirect_eq_iff alignment).mpr hflush).le
  · rw [Flush, not_or, not_or] at hflush
    rw [alignTextDirect]
    dsimp only
    rw [if_pos (not_le.mp hflush.1), if_neg hflush.2.1, if_neg (not_lt.mpr h)]
    have hlength := displayWidth_le_length (text.take width.toNat)
    rw [List.length_take] at hlength
    omega

/-- What is added to a text on its way to a line is blanks and an ellipsis. -/
theorem mem_alignTextDirect {c : UInt8} (h : c ∈ alignTextDirect text width alignment) :
    c ∈ text ∨ c = 32 ∨ c = 46 := by
  have hspaces {n : Int} (hc : c ∈ spaces n) : c ∈ text ∨ c = 32 ∨ c = 46 :=
    .inr (.inl (List.eq_of_mem_replicate hc))
  have htruncated {width acc : Int} {text : Str} (hc : c ∈ truncated width text acc) : c ∈ text := by
    induction text generalizing acc with
    | nil => exact absurd hc (by simp [truncated])
    | cons d text ih =>
      rw [truncated] at hc
      split at hc
      case isTrue =>
        split at hc
        case isTrue => exact absurd hc List.not_mem_nil
        case isFalse => exact (List.mem_cons.mp hc).elim (by rintro rfl; simp) fun hc => .tail _ (ih hc)
      case isFalse => exact (List.mem_cons.mp hc).elim (by rintro rfl; simp) fun hc => .tail _ (ih hc)
  rw [alignTextDirect] at h
  dsimp only at h
  split at h
  case isTrue =>
    split at h
    case isTrue =>
      rcases List.mem_append.mp h with hc | hc
      · exact .inl (htruncated hc)
      · have hdots : ∀ d ∈ ascii "...", d = 46 := by simp [ascii]
        exact .inr (.inr (hdots c hc))
    case isFalse =>
      split at h
      case isTrue => exact .inl h
      case isFalse => exact .inl (List.mem_of_mem_take h)
  case isFalse =>
    cases alignment with
    | left => exact (List.mem_append.mp h).elim .inl hspaces
    | right => exact (List.mem_append.mp h).elim hspaces .inl
    | center =>
      rcases List.mem_append.mp h with hc | hc
      · exact (List.mem_append.mp hc).elim hspaces .inl
      · exact hspaces hc

end

/-! ## Lines -/

/-- The end of a line. -/
theorem ascii_newline : ascii "\n" = [10] := rfl

theorem closed_newline (text : Str) : Lines.Closed 10 (text ++ ascii "\n") := closed_line text

theorem not_mem_alignTextDirect {text : Str} (h : 10 ∉ text) (width : Int) (alignment : Align) :
    10 ∉ alignTextDirect text width alignment := by
  intro hmem
  rcases mem_alignTextDirect hmem with hc | hc | hc
  · exact h hc
  · exact absurd hc (by decide)
  · exact absurd hc (by decide)

theorem not_mem_decimal (n : Nat) : 10 ∉ decimal n := by
  intro hmem
  obtain ⟨c, hc, hnewline⟩ := List.mem_map.mp hmem
  rw [Nat.toString_eq_repr, Nat.toList_repr] at hc
  have hdigit := Nat.isDigit_of_mem_toDigits (by decide) (by decide) hc
  rw [Char.isDigit, Bool.and_eq_true, decide_eq_true_iff, decide_eq_true_iff] at hdigit
  have hge : 48 ≤ c.toNat := hdigit.1
  have hle : c.toNat ≤ 57 := hdigit.2
  have hnat := congrArg UInt8.toNat hnewline
  rw [UInt8.toNat_ofNat', Nat.mod_eq_of_lt (by omega)] at hnat
  exact absurd hnat (by change c.toNat ≠ 10; omega)

/-- The texts of a table have no line ends, nor are the characters of its borders any. -/
structure TableBuilder.OneLine (t : TableBuilder) : Prop where
  borderChar : t.config.borderChar ≠ 10
  cornerChar : t.config.cornerChar ≠ 10
  verticalChar : t.config.verticalChar ≠ 10
  emptyCellText : 10 ∉ t.config.emptyCellText
  noDataText : 10 ∉ t.config.noDataText
  headers : ∀ col ∈ t.columns, ∀ text ∈ col.header :: col.extraHeaders, 10 ∉ text
  cells : ∀ row ∈ t.rows, ∀ cell ∈ row.cells, 10 ∉ cell
  multiLineCells : ∀ row ∈ t.rows, ∀ cell ∈ row.multiLineCells, ∀ line ∈ cell, 10 ∉ line
  spans : ∀ row ∈ t.preHeaderRows ++ t.rows, ∀ text, row.spanText = some text → 10 ∉ text

namespace TableBuilder

variable {t : TableBuilder}

/-- `getTotalWidth`. -/
def getTotalWidth (t : TableBuilder) : Int :=
  let t := t.calculateWidths
  1 + (if t.config.showRowNumbers then t.rowNumWidth + 3 else 0) +
    (t.columns.map fun col => col.width + 3).sum

/-- Every line of the table is as wide as the table. -/
def Framed (t : TableBuilder) : Prop :=
  ∀ line ∈ linesOf 10 t.toTableString, displayWidth line = t.getTotalWidth

/-- No column has a negative width. -/
def Nonneg (t : TableBuilder) : Prop := ∀ col ∈ t.columns, 0 ≤ col.width

theorem getTotalWidth_eq (t : TableBuilder) :
    t.getTotalWidth = t.calculateWidths.totalContentWidth + 4 := by
  rw [getTotalWidth, totalContentWidth]
  omega

theorem rowNumWidth_ge (h : t.config.showRowNumbers = true) : 3 ≤ t.rowNumWidth := by
  rw [rowNumWidth, if_pos h]
  exact le_max_left _ _

theorem totalContentWidth_nonneg (hcols : t.columns ≠ []) (hnonneg : t.Nonneg) :
    0 ≤ t.totalContentWidth := by
  obtain ⟨col, columns, hcons⟩ := List.exists_cons_of_ne_nil hcols
  have hsum : 0 ≤ (columns.map fun col => col.width + 3).sum := by
    refine List.sum_nonneg (List.forall_mem_map.mpr fun col' hcol' => ?_)
    have := hnonneg col' (hcons ▸ List.mem_cons_of_mem _ hcol')
    omega
  have hcol := hnonneg col (hcons ▸ List.mem_cons_self)
  rw [totalContentWidth, hcons, List.map_cons, List.sum_cons]
  split
  case isTrue h =>
    have := rowNumWidth_ge h
    omega
  case isFalse => omega

end TableBuilder

/-- Where no term is larger, two sums are equal exactly where all terms are. -/
theorem sum_eq_sum_iff {α : Type} {xs : List α} {f g : α → Int} (h : ∀ x ∈ xs, f x ≤ g x) :
    (xs.map f).sum = (xs.map g).sum ↔ ∀ x ∈ xs, f x = g x := by
  induction xs with
  | nil => simp
  | cons x xs ih =>
    have hxs : ∀ y ∈ xs, f y ≤ g y := fun y hy => h y (List.mem_cons_of_mem _ hy)
    rw [List.map_cons, List.map_cons, List.sum_cons, List.sum_cons,
      add_eq_add_iff_eq_and_eq (h x List.mem_cons_self) (List.sum_le_sum hxs), ih hxs,
      List.forall_mem_cons]

theorem getBorderChars_eq (config : TableConfig) (style : BorderStyle) : ∃ horizontal corner,
    (getBorderChars config style).horizontal = [horizontal] ∧
    (getBorderChars config style).corner = [corner] ∧
    (style = .normal ∧ horizontal = config.borderChar ∧ corner = config.cornerChar ∨
      style ≠ .normal ∧ isStart horizontal = true ∧ isStart corner = true ∧
        horizontal ≠ 10 ∧ corner ≠ 10) := by
  cases style with
  | normal => exact ⟨config.borderChar, config.cornerChar, rfl, rfl, .inl ⟨rfl, rfl, rfl⟩⟩
  | heavy => exact ⟨61, 43, rfl, rfl, .inr (by decide)⟩
  | double => exact ⟨61, 43, rfl, rfl, .inr (by decide)⟩
  | none => exact ⟨32, 32, rfl, rfl, .inr (by decide)⟩

namespace TableBuilder

variable {t : TableBuilder}

/-- A border is one line, of corners and of what runs between them. -/
theorem getBorderLine_spec (t : TableBuilder) (style : BorderStyle) {horizontal corner : UInt8}
    (hhorizontal : (getBorderChars t.config style).horizontal = [horizontal])
    (hcorner : (getBorderChars t.config style).corner = [corner]) :
    ∃ body, t.getBorderLine style = body ++ [10] ∧ (∀ c ∈ body, c = horizontal ∨ c = corner) ∧
      displayWidth body = displayWidth [corner] +
        (if t.config.showRowNumbers then
          max (t.rowNumWidth + 2) 0 * displayWidth [horizontal] + displayWidth [corner] else 0) +
        (t.columns.map fun col =>
          max (col.width + 2) 0 * displayWidth [horizontal] + displayWidth [corner]).sum := by
  let repeated (n : Int) : Str := (List.replicate n.toNat [horizontal]).flatten
  refine ⟨[corner] ++ (if t.config.showRowNumbers then repeated (t.rowNumWidth + 2) ++ [corner]
    else []) ++ t.columns.flatMap (fun col => repeated (col.width + 2) ++ [corner]), ?_, ?_, ?_⟩
  · rw [getBorderLine, hhorizontal, hcorner]
    rfl
  · have hrepeated (n : Int) : ∀ c ∈ repeated n ++ [corner], c = horizontal ∨ c = corner := by
      intro c hc
      rcases List.mem_append.mp hc with hc | hc
      · have hc : c ∈ (List.replicate n.toNat [horizontal]).flatten := hc
        rw [List.flatten_replicate_singleton] at hc
        exact .inl (List.eq_of_mem_replicate hc)
      · exact .inr (List.mem_singleton.mp hc)
    intro c hc
    rcases List.mem_append.mp hc with hc | hc
    · rcases List.mem_append.mp hc with hc | hc
      · exact .inr (List.mem_singleton.mp hc)
      · split at hc
        case isTrue => exact hrepeated _ c hc
        case isFalse => exact absurd hc List.not_mem_nil
    · obtain ⟨col, -, hc⟩ := List.mem_flatMap.mp hc
      exact hrepeated _ c hc
  · rw [displayWidth_append, displayWidth_append, displayWidth_flatMap]
    congr 2
    · split
      case isTrue => rw [displayWidth_append, displayWidth_repeated]
      case isFalse => rfl
    · simp only [displayWidth_append, repeated, displayWidth_repeated]

/-- What runs along a column of a border, and the corner after it. -/
theorem displayWidth_border_iff {width : Int} (h : 0 ≤ width) (horizontal corner : UInt8) :
    max (width + 2) 0 * displayWidth [horizontal] + displayWidth [corner] ≤ width + 3 ∧
      (max (width + 2) 0 * displayWidth [horizontal] + displayWidth [corner] = width + 3 ↔
        isStart horizontal = true ∧ isStart corner = true) := by
  rw [max_eq_left (by omega), displayWidth_singleton, displayWidth_singleton]
  by_cases hhor : isStart horizontal = true
  · by_cases hcor : isStart corner = true
    · rw [if_pos hhor, if_pos hcor]
      exact ⟨by omega, iff_of_true (by omega) ⟨hhor, hcor⟩⟩
    · rw [if_pos hhor, if_neg hcor]
      exact ⟨by omega, iff_of_false (by omega) fun h => hcor h.2⟩
  · rw [if_neg hhor]
    split
    case isTrue => exact ⟨by omega, iff_of_false (by omega) fun h => hhor h.1⟩
    case isFalse => exact ⟨by omega, iff_of_false (by omega) fun h => hhor h.1⟩

/-- A border is as wide as the table exactly where its characters are. -/
theorem forall_linesOf_getBorderLine (hone : t.OneLine) (hcols : t.columns ≠ []) (hnonneg : t.Nonneg)
    (style : BorderStyle) :
    (∀ line ∈ linesOf 10 (t.getBorderLine style), displayWidth line = t.totalContentWidth + 4) ↔
      (style = .normal → isStart t.config.borderChar = true ∧ isStart t.config.cornerChar = true) := by
  obtain ⟨horizontal, corner, hhorizontal, hcorner, hchars⟩ := getBorderChars_eq t.config style
  obtain ⟨body, hbody, hmem, hwidth⟩ := t.getBorderLine_spec style hhorizontal hcorner
  have hnewline : 10 ∉ body := by
    intro h
    obtain ⟨-, rfl, rfl⟩ | ⟨-, -, -, hhor, hcor⟩ := hchars
    · exact (hmem 10 h).elim (fun h => hone.borderChar h.symm) fun h => hone.cornerChar h.symm
    · exact (hmem 10 h).elim (fun h => hhor h.symm) fun h => hcor h.symm
  have hcorner' := displayWidth_singleton_le corner
  have hnumbers : (if t.config.showRowNumbers then
      max (t.rowNumWidth + 2) 0 * displayWidth [horizontal] + displayWidth [corner] else 0) ≤
      if t.config.showRowNumbers then t.rowNumWidth + 3 else 0 := by
    split
    case isTrue h =>
      have hge := rowNumWidth_ge h
      exact (displayWidth_border_iff (by omega) horizontal corner).1
    case isFalse => exact le_rfl
  have hle : ∀ col ∈ t.columns,
      max (col.width + 2) 0 * displayWidth [horizontal] + displayWidth [corner] ≤ col.width + 3 :=
    fun col hcol => (displayWidth_border_iff (hnonneg col hcol) horizontal corner).1
  have hall : displayWidth body = t.totalContentWidth + 4 ↔
      isStart horizontal = true ∧ isStart corner = true := by
    have hsum := List.sum_le_sum hle
    have hiff := sum_eq_sum_iff hle
    rw [hwidth, totalContentWidth]
    constructor
    · intro heq
      obtain ⟨col, hcol⟩ := List.exists_mem_of_ne_nil _ hcols
      exact (displayWidth_border_iff (hnonneg col hcol) horizontal corner).2.mp
        (hiff.mp (by omega) col hcol)
    · intro hstart
      have hcols' := hiff.mpr fun col hcol =>
        (displayWidth_border_iff (hnonneg col hcol) horizontal corner).2.mpr hstart
      rw [hcols', displayWidth_singleton_eq_iff.mpr hstart.1, displayWidth_singleton_eq_iff.mpr hstart.2]
      split
      case isTrue h =>
        have hge := rowNumWidth_ge h
        omega
      case isFalse => omega
  rw [hbody, forall_linesOf_line hnewline, hall]
  obtain ⟨hstyle, rfl, rfl⟩ | ⟨hstyle, hhor, hcor, -⟩ := hchars
  · exact ⟨fun h _ => h, fun h => h hstyle⟩
  · exact iff_of_true ⟨hhor, hcor⟩ fun h => absurd h hstyle

theorem closed_getBorderLine (t : TableBuilder) (style : BorderStyle) :
    Lines.Closed 10 (t.getBorderLine style) := by
  obtain ⟨horizontal, corner, hhorizontal, hcorner, -⟩ := getBorderChars_eq t.config style
  obtain ⟨body, hbody, -⟩ := t.getBorderLine_spec style hhorizontal hcorner
  rw [hbody]
  exact closed_line body

theorem displayWidth_bar (t : TableBuilder) :
    displayWidth t.bar = 1 + displayWidth [t.config.verticalChar] :=
  displayWidth_append [32] [t.config.verticalChar]

/-- A text across all columns. -/
theorem forall_linesOf_spanLine (hone : t.OneLine) (hcols : t.columns ≠ []) (hnonneg : t.Nonneg)
    {text : Str} (htext : 10 ∉ text) (alignment : Align) :
    (∀ line ∈ linesOf 10 (t.spanLine text alignment), displayWidth line = t.totalContentWidth + 4) ↔
      isStart t.config.verticalChar = true ∧ Flush text t.totalContentWidth := by
  have hnewline : 10 ∉ [t.config.verticalChar, 32] ++
      alignTextDirect text t.totalContentWidth alignment ++ t.bar := by
    have hvertical := hone.verticalChar
    have halign := not_mem_alignTextDirect htext t.totalContentWidth alignment
    simp [bar, halign, hvertical.symm]
  have hvertical := displayWidth_singleton_le t.config.verticalChar
  have hle := displayWidth_alignTextDirect_le (totalContentWidth_nonneg hcols hnonneg) text alignment
  have hfront : displayWidth [t.config.verticalChar, 32] = displayWidth [t.config.verticalChar] + 1 :=
    displayWidth_append [t.config.verticalChar] [32]
  rw [spanLine, ascii_newline, forall_linesOf_line hnewline, displayWidth_append, displayWidth_append,
    hfront, displayWidth_bar, ← displayWidth_singleton_eq_iff,
    ← displayWidth_alignTextDirect_eq_iff alignment]
  omega

theorem closed_spanLine (t : TableBuilder) (text : Str) (alignment : Align) :
    Lines.Closed 10 (t.spanLine text alignment) := by
  rw [spanLine]
  exact closed_newline _

/-- The column of the row numbers, and its bar. -/
theorem displayWidth_numberText (t : TableBuilder) (text : Str) (alignment : Align) :
    displayWidth (t.numberText text alignment) ≤
        (if t.config.showRowNumbers then t.rowNumWidth + 3 else 0) ∧
      (displayWidth [t.config.verticalChar] = 1 → displayWidth (t.numberText text alignment) =
        if t.config.showRowNumbers then t.rowNumWidth + 3 else 0) := by
  have hblank : displayWidth [32] = 1 := rfl
  have hvertical := displayWidth_singleton_le t.config.verticalChar
  rw [numberText]
  split
  case isTrue h =>
    rw [displayWidth_append, displayWidth_append,
      (displayWidth_alignTextDirect_eq_iff alignment).mpr (.inr (.inl (rowNumWidth_ge h))), displayWidth_bar, hblank]
    omega
  case isFalse => exact ⟨le_rfl, fun _ => rfl⟩

/-- The texts of one line take the widths of their columns exactly where each of them does; the bars
between them are characters or blanks. -/
theorem displayWidth_cellTexts (hnonneg : t.Nonneg) (suppressColSep : Bool) {contents : List Str}
    (hlength : contents.length = t.columns.length) :
    displayWidth (t.cellTexts suppressColSep contents) ≤ (t.columns.map fun col => col.width + 3).sum ∧
      (isStart t.config.verticalChar = true →
        (displayWidth (t.cellTexts suppressColSep contents) =
            (t.columns.map fun col => col.width + 3).sum ↔
          ∀ p ∈ t.columns.zip contents, Flush p.2 p.1.width)) := by
  have hcolumns : (t.columns.map fun col => col.width + 3).sum =
      ((t.columns.zip contents).zipIdx.map fun p => p.1.1.width + 3).sum := by
    have hzip : (t.columns.zip contents).zipIdx.map (Prod.fst ∘ Prod.fst) = t.columns := by
      rw [← List.map_map, List.zipIdx_map_fst, List.map_fst_zip hlength.ge]
    conv_lhs => rw [← hzip, List.map_map]
    rfl
  let cell (p : (Column × Str) × Nat) : Str :=
    [32] ++ alignTextDirect p.1.2 p.1.1.width p.1.1.alignment ++
      if ¬suppressColSep ∨ p.2 = t.columns.length - 1 then t.bar else ascii "  "
  have hcell (p : (Column × Str) × Nat) (hp : p ∈ (t.columns.zip contents).zipIdx) :
      displayWidth (cell p) ≤ p.1.1.width + 3 ∧ (isStart t.config.verticalChar = true →
        (displayWidth (cell p) = p.1.1.width + 3 ↔ Flush p.1.2 p.1.1.width)) := by
    have hwidth := hnonneg p.1.1 (List.of_mem_zip (List.fst_mem_of_mem_zipIdx hp)).1
    have hle := displayWidth_alignTextDirect_le hwidth p.1.2 p.1.1.alignment
    have hvertical := displayWidth_singleton_le t.config.verticalChar
    have hblank : displayWidth [32] = 1 := rfl
    have hblanks : displayWidth (ascii "  ") = 2 := rfl
    rw [← displayWidth_singleton_eq_iff,
      ← displayWidth_alignTextDirect_eq_iff p.1.1.alignment, displayWidth_append,
      displayWidth_append, hblank]
    split
    case isTrue =>
      rw [displayWidth_bar]
      omega
    case isFalse => omega
  have hle := fun p hp => (hcell p hp).1
  rw [hcolumns, show t.cellTexts suppressColSep contents = _ from rfl]
  refine ⟨(displayWidth_flatMap _ cell).le.trans (List.sum_le_sum hle), fun hstart => ?_⟩
  refine (Eq.congr_left (displayWidth_flatMap _ cell)).trans ((sum_eq_sum_iff hle).trans ?_)
  rw [forall₂_congr fun p hp => (hcell p hp).2 hstart]
  constructor
  · intro h p hp
    obtain ⟨i, hi⟩ := List.getElem?_of_mem hp
    exact h (p, i) (List.mk_mem_zipIdx_iff_getElem?.mpr hi)
  · exact fun h p hp => h p.1 (List.fst_mem_of_mem_zipIdx hp)

theorem not_mem_numberText (hone : t.OneLine) {text : Str} (htext : 10 ∉ text) (alignment : Align) :
    10 ∉ t.numberText text alignment := by
  rw [numberText]
  split
  case isTrue =>
    have halign := not_mem_alignTextDirect htext t.rowNumWidth alignment
    simp [bar, halign, hone.verticalChar.symm]
  case isFalse => exact List.not_mem_nil

theorem not_mem_cellTexts (hone : t.OneLine) (suppressColSep : Bool) {contents : List Str}
    (hcontents : ∀ content ∈ contents, 10 ∉ content) : 10 ∉ t.cellTexts suppressColSep contents := by
  intro hmem
  obtain ⟨⟨⟨col, content⟩, i⟩, hp, hmem⟩ := List.mem_flatMap.mp hmem
  have hcontent := hcontents content (List.of_mem_zip (List.fst_mem_of_mem_zipIdx hp)).2
  have halign := not_mem_alignTextDirect hcontent col.width col.alignment
  dsimp only at hmem
  split at hmem
  case isTrue => simp [bar, halign, hone.verticalChar.symm] at hmem
  case isFalse => simp [ascii, halign] at hmem

/-- A line with a text under each column. -/
theorem forall_linesOf_cells (hone : t.OneLine) (hnonneg : t.Nonneg) {number : Str}
    (hnumber : 10 ∉ number) (alignment : Align) (suppressColSep : Bool) {contents : List Str}
    (hcontents : ∀ content ∈ contents, 10 ∉ content) (hlength : contents.length = t.columns.length) :
    (∀ line ∈ linesOf 10 ([t.config.verticalChar] ++ t.numberText number alignment ++
        t.cellTexts suppressColSep contents ++ ascii "\n"),
      displayWidth line = t.totalContentWidth + 4) ↔
      isStart t.config.verticalChar = true ∧
        ∀ p ∈ t.columns.zip contents, Flush p.2 p.1.width := by
  have hnewline : 10 ∉ [t.config.verticalChar] ++ t.numberText number alignment ++
      t.cellTexts suppressColSep contents := by
    simp [hone.verticalChar.symm, not_mem_numberText hone hnumber,
      not_mem_cellTexts hone suppressColSep hcontents]
  have hvertical := displayWidth_singleton_le t.config.verticalChar
  obtain ⟨hle, hiff⟩ := displayWidth_cellTexts hnonneg suppressColSep hlength
  obtain ⟨hnumberLe, hnumberEq⟩ := t.displayWidth_numberText number alignment
  rw [ascii_newline, forall_linesOf_line hnewline, displayWidth_append, displayWidth_append,
    totalContentWidth]
  constructor
  · intro heq
    have hstart : isStart t.config.verticalChar = true := by
      rw [← displayWidth_singleton_eq_iff]
      omega
    exact ⟨hstart, (hiff hstart).mp (by omega)⟩
  · rintro ⟨hstart, hflush⟩
    have hcells := (hiff hstart).mpr hflush
    have hone := displayWidth_singleton_eq_iff.mpr hstart
    have hnumber := hnumberEq hone
    omega

end TableBuilder

/-- Every text that the row shows takes the width that it is given. -/
def ShownRow.FlushIn (columns : List Column) (totalContentWidth : Int) : ShownRow → Prop
  | .separator _ => True
  | .span text => Flush text totalContentWidth
  | .lines shownLines => ∀ contents ∈ shownLines, ∀ p ∈ columns.zip contents, Flush p.2 p.1.width

/-- The texts that the row shows have no line ends, and there are so many under the columns. -/
def ShownRow.OneLine (columns : Nat) : ShownRow → Prop
  | .separator _ => True
  | .span text => 10 ∉ text
  | .lines shownLines => ∀ contents ∈ shownLines, contents.length = columns ∧
      ∀ content ∈ contents, 10 ∉ content

/-- Every text of a table takes the width that it is given. The characters of the borders are
characters; the text of a table without rows has room and only characters of one byte, or it is
exactly as wide as all columns. -/
structure TableBuilder.FlushTexts (t : TableBuilder) : Prop where
  borderChar : isStart t.config.borderChar = true
  cornerChar : isStart t.config.cornerChar = true
  verticalChar : isStart t.config.verticalChar = true
  headers : ∀ col ∈ t.columns, ∀ text ∈ col.header :: col.extraHeaders, Flush text col.width
  preHeaders : ∀ row ∈ t.preHeaderRows, ∀ text, row.spanText = some text →
    Flush text t.totalContentWidth
  rows : ∀ shown ∈ t.shownRows, shown.FlushIn t.columns t.totalContentWidth
  noData : t.rows = [] → displayWidth t.config.noDataText = t.totalContentWidth ∨
    displayWidth t.config.noDataText = t.config.noDataText.length ∧
      displayWidth t.config.noDataText ≤ t.totalContentWidth

namespace TableBuilder

variable {t : TableBuilder}

theorem FlushTexts.nonneg (h : t.FlushTexts) : t.Nonneg := fun col hcol =>
  (h.headers col hcol col.header List.mem_cons_self).nonneg

/-- Texts that are the headers of the columns, or taken from them. -/
theorem forall_zip_map {P : Str → Int → Prop} (columns : List Column) (f : Column → Str) :
    (∀ p ∈ columns.zip (columns.map f), P p.2 p.1.width) ↔ ∀ col ∈ columns, P (f col) col.width := by
  induction columns with
  | nil => simp
  | cons col columns ih => rw [List.map_cons, List.zip_cons_cons, List.forall_mem_cons, ih,
      List.forall_mem_cons]

/-- The line of the headers. -/
theorem forall_linesOf_headerLine (hone : t.OneLine) (hnonneg : t.Nonneg) :
    (∀ line ∈ linesOf 10 t.headerLine, displayWidth line = t.totalContentWidth + 4) ↔
      isStart t.config.verticalChar = true ∧ ∀ col ∈ t.columns, Flush col.header col.width := by
  have hnumber : 10 ∉ ascii "#" := by decide
  have hheaders : ∀ header ∈ t.columns.map Column.header, 10 ∉ header :=
    List.forall_mem_map.mpr fun col hcol => hone.headers col hcol _ List.mem_cons_self
  rw [headerLine, forall_linesOf_cells hone hnonneg hnumber .center _ hheaders (List.length_map _),
    forall_zip_map t.columns Column.header (P := Flush)]

/-- The further lines of the headers. -/
theorem forall_linesOf_extraHeaderLines (hone : t.OneLine) (hnonneg : t.Nonneg)
    (hvertical : isStart t.config.verticalChar = true) :
    (∀ line ∈ linesOf 10 t.extraHeaderLines, displayWidth line = t.totalContentWidth + 4) ↔
      ∀ col ∈ t.columns, ∀ text ∈ col.extraHeaders, Flush text col.width := by
  have hcontents (line : Nat) :
      ∀ content ∈ t.columns.map fun col => col.extraHeaders.getD line [], 10 ∉ content := by
    refine List.forall_mem_map.mpr fun col hcol => ?_
    rw [List.getD_eq_getElem?_getD]
    cases hline : col.extraHeaders[line]? with
    | none => exact List.not_mem_nil
    | some text =>
      exact hone.headers col hcol text (List.mem_cons_of_mem _ (List.mem_of_getElem? hline))
  have hline (line : Nat) : (∀ l ∈ linesOf 10 ([t.config.verticalChar] ++ t.numberText [] .left ++
        t.cellTexts false (t.columns.map fun col => col.extraHeaders.getD line []) ++ ascii "\n"),
      displayWidth l = t.totalContentWidth + 4) ↔
      ∀ col ∈ t.columns, Flush (col.extraHeaders.getD line []) col.width := by
    rw [forall_linesOf_cells hone hnonneg List.not_mem_nil .left false (hcontents line)
      (List.length_map _), and_iff_right hvertical,
      forall_zip_map t.columns (fun col => col.extraHeaders.getD line []) (P := Flush)]
  rw [extraHeaderLines]
  refine (forall_linesOf_flatMap fun line _ => closed_newline _).trans
    ((forall₂_congr fun line _ => hline line).trans ?_)
  simp only [List.mem_range]
  constructor
  · intro h col hcol text htext
    obtain ⟨line, hline, rfl⟩ := List.getElem_of_mem htext
    have hlt : line < (t.columns.map fun col => col.extraHeaders.length).foldl max 0 :=
      hline.trans_le (le_foldl_max_of_mem (List.mem_map_of_mem hcol))
    have hflush := h line hlt col hcol
    rwa [List.getD_eq_getElem _ _ hline] at hflush
  · intro h line _ col hcol
    rw [List.getD_eq_getElem?_getD]
    cases hline : col.extraHeaders[line]? with
    | none => exact flush_nil (hnonneg col hcol)
    | some text => exact h col hcol text (List.mem_of_getElem? hline)

/-- The text of a table without rows, between blanks that are counted in bytes. -/
theorem forall_linesOf_noDataLine (hone : t.OneLine)
    (hvertical : isStart t.config.verticalChar = true) :
    (∀ line ∈ linesOf 10 t.noDataLine, displayWidth line = t.totalContentWidth + 4) ↔
      displayWidth t.config.noDataText = t.totalContentWidth ∨
        displayWidth t.config.noDataText = t.config.noDataText.length ∧
          displayWidth t.config.noDataText ≤ t.totalContentWidth := by
  have hspaces (n : Int) : 10 ∉ spaces n := fun h => absurd (List.eq_of_mem_replicate h) (by decide)
  let padding := t.totalContentWidth - t.config.noDataText.length
  have hnewline : 10 ∉ [t.config.verticalChar, 32] ++ spaces (max 0 (padding.tdiv 2)) ++
      t.config.noDataText ++ spaces (max 0 (padding - padding.tdiv 2)) ++ t.bar := by
    simp [bar, hspaces, hone.noDataText, hone.verticalChar.symm]
  have hfront : displayWidth [t.config.verticalChar, 32] = 2 := by
    rw [displayWidth_cons, displayWidth_singleton_eq_iff.mpr hvertical]
    rfl
  have hlength := displayWidth_le_length t.config.noDataText
  rw [noDataLine, ascii_newline, forall_linesOf_line hnewline]
  simp only [displayWidth_append, displayWidth_spaces, hfront, displayWidth_bar,
    displayWidth_singleton_eq_iff.mpr hvertical]
  rcases le_or_gt 0 padding with hroom | htight
  · rw [Int.tdiv_eq_ediv_of_nonneg hroom]
    have : padding = t.totalContentWidth - t.config.noDataText.length := rfl
    omega
  · have hdiv : padding.tdiv 2 = -(-padding / 2) := by
      rw [← Int.tdiv_eq_ediv_of_nonneg (by omega), Int.neg_tdiv, neg_neg]
    rw [hdiv]
    have : padding = t.totalContentWidth - t.config.noDataText.length := rfl
    omega

/-- Rows without line breaks are shown as one line each. -/
theorem OneLine.shown (hone : t.OneLine) {shown : ShownRow} (hshown : shown ∈ t.shownRows) :
    shown.OneLine t.columns.length := by
  obtain ⟨row, hrow, rfl⟩ := List.mem_map.mp hshown
  rw [Row.shown]
  split
  case isTrue => trivial
  case isFalse =>
    cases hspan : row.spanText with
    | some text => exact hone.spans row (List.mem_append_right _ hrow) text hspan
    | none =>
      refine List.forall_mem_map.mpr fun line _ => ⟨by simp, List.forall_mem_map.mpr fun i _ => ?_⟩
      rw [Row.content]
      split
      case isTrue =>
        rw [Row.lineContent, List.getD_eq_getElem?_getD, List.getD_eq_getElem?_getD]
        cases hcell : row.multiLineCells[i]? with
        | none => simp
        | some cell =>
          cases hline : cell[line]? with
          | none => simp [hline]
          | some text =>
            rw [Option.getD_some, hline]
            exact hone.multiLineCells row hrow cell (List.mem_of_getElem? hcell) text
              (List.mem_of_getElem? hline)
      case isFalse =>
        rw [Row.cellContent]
        split
        case isTrue hne =>
          rw [List.getD_eq_getElem?_getD] at hne ⊢
          cases hcell : row.cells[i]? with
          | none => simp [hcell] at hne
          | some cell => exact hone.cells row hrow cell (List.mem_of_getElem? hcell)
        case isFalse => exact hone.emptyCellText

/-- The lines of a row. -/
theorem forall_linesOf_rowText (hone : t.OneLine) (hcols : t.columns ≠ []) (hnonneg : t.Nonneg)
    (hborder : isStart t.config.borderChar = true ∧ isStart t.config.cornerChar = true)
    (hvertical : isStart t.config.verticalChar = true) {shown : ShownRow}
    (hshown : shown ∈ t.shownRows) (rowIdx : Nat) :
    (∀ line ∈ linesOf 10 (t.rowText rowIdx shown), displayWidth line = t.totalContentWidth + 4) ↔
      shown.FlushIn t.columns t.totalContentWidth := by
  have hshown' := hone.shown hshown
  cases shown with
  | separator style =>
    exact iff_of_true ((forall_linesOf_getBorderLine hone hcols hnonneg style).mpr fun _ => hborder)
      trivial
  | span text =>
    exact (forall_linesOf_spanLine hone hcols hnonneg hshown' .center).trans (and_iff_right hvertical)
  | lines shownLines =>
    refine (forall_linesOf_flatMap fun p _ => closed_newline _).trans ?_
    have hline (p : List Str × Nat) (hp : p ∈ shownLines.zipIdx) :
        (∀ l ∈ linesOf 10 ([t.config.verticalChar] ++
            t.numberText (if p.2 = 0 then decimal (rowIdx + 1) else []) .right ++
            t.cellTexts t.suppressDataColSep p.1 ++ ascii "\n"),
          displayWidth l = t.totalContentWidth + 4) ↔
          ∀ q ∈ t.columns.zip p.1, Flush q.2 q.1.width := by
      have hnumber : 10 ∉ if p.2 = 0 then decimal (rowIdx + 1) else [] := by
        split
        case isTrue => exact not_mem_decimal _
        case isFalse => exact List.not_mem_nil
      obtain ⟨hlength, hcontents⟩ := hshown' p.1 (List.fst_mem_of_mem_zipIdx hp)
      rw [forall_linesOf_cells hone hnonneg hnumber .right _ hcontents hlength, and_iff_right hvertical]
    refine (forall₂_congr hline).trans ?_
    constructor
    · intro h contents hcontents
      obtain ⟨i, hi⟩ := List.getElem?_of_mem hcontents
      exact h (contents, i) (List.mk_mem_zipIdx_iff_getElem?.mpr hi)
    · exact fun h p hp => h p.1 (List.fst_mem_of_mem_zipIdx hp)

theorem closed_rowText (t : TableBuilder) (rowIdx : Nat) (shown : ShownRow) :
    Lines.Closed 10 (t.rowText rowIdx shown) := by
  cases shown with
  | separator style => exact t.closed_getBorderLine style
  | span text => exact t.closed_spanLine text .center
  | lines shownLines => exact Lines.Closed.flatMap fun p _ => closed_newline _

/-- The lines of a row above the headers. -/
theorem forall_linesOf_preHeaderLines (hone : t.OneLine) (hcols : t.columns ≠ []) (hnonneg : t.Nonneg)
    (hborder : isStart t.config.borderChar = true ∧ isStart t.config.cornerChar = true)
    (hvertical : isStart t.config.verticalChar = true) {row : Row} (hrow : row ∈ t.preHeaderRows) :
    (∀ line ∈ linesOf 10 (t.preHeaderLines row), displayWidth line = t.totalContentWidth + 4) ↔
      ∀ text, row.spanText = some text → Flush text t.totalContentWidth := by
  have hstyle : ∀ line ∈ linesOf 10
      (if row.borderStyle ≠ .none then t.getBorderLine row.borderStyle else []),
      displayWidth line = t.totalContentWidth + 4 := by
    split
    case isTrue =>
      exact (forall_linesOf_getBorderLine hone hcols hnonneg row.borderStyle).mpr fun _ => hborder
    case isFalse => exact fun line hline => absurd hline List.not_mem_nil
  rw [preHeaderLines]
  cases hspan : row.spanText with
  | none => exact iff_of_true hstyle fun text h => absurd h (by simp)
  | some text =>
    have htext := hone.spans row (List.mem_append_left _ hrow) text hspan
    dsimp only
    rw [forall_linesOf_append (t.closed_spanLine text row.spanAlign), and_iff_left hstyle,
      forall_linesOf_spanLine hone hcols hnonneg htext, and_iff_right hvertical]
    exact ⟨fun h text' heq => Option.some.inj heq ▸ h, fun h => h text rfl⟩

theorem closed_preHeaderLines (t : TableBuilder) (row : Row) : Lines.Closed 10 (t.preHeaderLines row) := by
  have hstyle : Lines.Closed 10
      (if row.borderStyle ≠ .none then t.getBorderLine row.borderStyle else []) := by
    split
    case isTrue => exact t.closed_getBorderLine row.borderStyle
    case isFalse => exact closed_nil
  rw [preHeaderLines]
  cases row.spanText with
  | none => exact hstyle
  | some text => exact (t.closed_spanLine text row.spanAlign).append hstyle

/-- All lines of a table whose widths are known. -/
theorem forall_linesOf_tableText (hone : t.OneLine) (hcols : t.columns ≠ []) (hnonneg : t.Nonneg) :
    (∀ line ∈ linesOf 10 t.tableText, displayWidth line = t.totalContentWidth + 4) ↔ t.FlushTexts := by
  have hpre : Lines.Closed 10 (t.preHeaderRows.flatMap t.preHeaderLines) :=
    Lines.Closed.flatMap fun row _ => t.closed_preHeaderLines row
  have hextra : Lines.Closed 10 t.extraHeaderLines := Lines.Closed.flatMap fun line _ => closed_newline _
  have hsep : Lines.Closed 10 (if t.suppressHeaderSep then [] else t.getBorderLine .normal) := by
    split
    case isTrue => exact closed_nil
    case isFalse => exact t.closed_getBorderLine .normal
  have hrows : ∀ p ∈ t.shownRows.zipIdx, Lines.Closed 10 (t.rowText p.2 p.1) := fun p _ =>
    t.closed_rowText p.2 p.1
  have hdata : Lines.Closed 10 (if t.rows = [] then t.noDataLine
      else t.shownRows.zipIdx.flatMap fun p => t.rowText p.2 p.1) := by
    split
    case isTrue => exact closed_newline _
    case isFalse => exact Lines.Closed.flatMap hrows
  have hborder := t.closed_getBorderLine .normal
  have hheader : Lines.Closed 10 t.headerLine := closed_newline _
  have htext : t.tableText = t.getBorderLine .normal ++ t.preHeaderRows.flatMap t.preHeaderLines ++
      t.headerLine ++ t.extraHeaderLines ++
      (if t.suppressHeaderSep then [] else t.getBorderLine .normal) ++
      (if t.rows = [] then t.noDataLine
        else t.shownRows.zipIdx.flatMap fun p => t.rowText p.2 p.1) ++ t.getBorderLine .normal := rfl
  rw [htext, forall_linesOf_append (((((hborder.append hpre).append hheader).append hextra).append
      hsep).append hdata),
    forall_linesOf_append ((((hborder.append hpre).append hheader).append hextra).append hsep),
    forall_linesOf_append (((hborder.append hpre).append hheader).append hextra),
    forall_linesOf_append ((hborder.append hpre).append hheader),
    forall_linesOf_append (hborder.append hpre), forall_linesOf_append hborder,
    forall_linesOf_getBorderLine hone hcols hnonneg .normal, forall_linesOf_headerLine hone hnonneg,
    forall_linesOf_flatMap fun row _ => t.closed_preHeaderLines row]
  constructor
  · rintro ⟨⟨⟨⟨⟨⟨hchars, hpre⟩, hvertical, hheaders⟩, hextra⟩, -⟩, hdata⟩, -⟩
    rw [forall_linesOf_extraHeaderLines hone hnonneg hvertical] at hextra
    refine ⟨(hchars rfl).1, (hchars rfl).2, hvertical, fun col hcol => ?_, fun row hrow => ?_,
      fun shown hshown => ?_, fun hnil => ?_⟩
    · exact List.forall_mem_cons.mpr ⟨hheaders col hcol, hextra col hcol⟩
    · exact (forall_linesOf_preHeaderLines hone hcols hnonneg (hchars rfl) hvertical hrow).mp
        (hpre row hrow)
    · obtain ⟨i, hi⟩ := List.getElem?_of_mem hshown
      have hne : t.rows ≠ [] := by
        rintro hnil
        rw [shownRows, hnil] at hshown
        exact absurd hshown List.not_mem_nil
      rw [if_neg hne, forall_linesOf_flatMap hrows] at hdata
      exact (forall_linesOf_rowText hone hcols hnonneg (hchars rfl) hvertical hshown i).mp
        (hdata (shown, i) (List.mk_mem_zipIdx_iff_getElem?.mpr hi))
    · rw [if_pos hnil] at hdata
      exact (forall_linesOf_noDataLine hone hvertical).mp hdata
  · intro h
    have hchars : isStart t.config.borderChar = true ∧ isStart t.config.cornerChar = true :=
      ⟨h.borderChar, h.cornerChar⟩
    refine ⟨⟨⟨⟨⟨⟨fun _ => hchars, fun row hrow => ?_⟩, h.verticalChar, fun col hcol => ?_⟩, ?_⟩, ?_⟩, ?_⟩,
      fun _ => hchars⟩
    · exact (forall_linesOf_preHeaderLines hone hcols hnonneg hchars h.verticalChar hrow).mpr
        (h.preHeaders row hrow)
    · exact h.headers col hcol _ List.mem_cons_self
    · rw [forall_linesOf_extraHeaderLines hone hnonneg h.verticalChar]
      exact fun col hcol text htext => h.headers col hcol text (List.mem_cons_of_mem _ htext)
    · split
      case isTrue => exact fun line hline => absurd hline List.not_mem_nil
      case isFalse =>
        exact (forall_linesOf_getBorderLine hone hcols hnonneg .normal).mpr fun _ => hchars
    · split
      case isTrue hnil => exact (forall_linesOf_noDataLine hone h.verticalChar).mpr (h.noData hnil)
      case isFalse =>
        refine (forall_linesOf_flatMap hrows).mpr fun p hp => ?_
        have hshown := List.fst_mem_of_mem_zipIdx hp
        exact (forall_linesOf_rowText hone hcols hnonneg hchars h.verticalChar hshown p.2).mpr
          (h.rows p.1 hshown)

/-! ## Computed widths -/

end TableBuilder

/-- The headers of a column. -/
def Column.headers (col : Column) : List Str := col.header :: col.extraHeaders

theorem Column.limit_nonneg {maxCellWidth : Int} (hmax : 0 ≤ maxCellWidth) {col : Column}
    (h : 0 ≤ col.width) : 0 ≤ (col.limit maxCellWidth).width := by
  rw [Column.limit]
  dsimp only
  omega

theorem map_headers_widen (columns : List Column) (texts : List (List Str)) :
    (widen columns texts).map Column.headers = columns.map Column.headers := by
  fun_induction widen columns texts with
  | case1 col columns lines cells ih => exact congrArg (col.headers :: ·) ih
  | case2 => rfl

namespace TableBuilder

variable {t : TableBuilder}

/-- The columns before the limit have the headers of the table, and no negative width. -/
theorem rawColumns_spec (t : TableBuilder) : t.rawColumns.map Column.headers =
    t.columns.map Column.headers ∧ ∀ col ∈ t.rawColumns, 0 ≤ col.width := by
  have hrows (rows : List Row) (columns : List Column) (hnonneg : ∀ col ∈ columns, 0 ≤ col.width) :
      (rows.foldl (fun columns row => widen columns row.texts) columns).map Column.headers =
        columns.map Column.headers ∧
      ∀ col ∈ rows.foldl (fun columns row => widen columns row.texts) columns, 0 ≤ col.width := by
    induction rows generalizing columns with
    | nil => exact ⟨rfl, hnonneg⟩
    | cons row rows ih =>
      rw [List.foldl_cons, ← map_headers_widen columns row.texts]
      exact ih _ (widen_nonneg hnonneg row.texts)
  have hheaders : ∀ col ∈ t.columns.map Column.fitHeaders, 0 ≤ col.width :=
    List.forall_mem_map.mpr fun col _ => (displayWidth_nonneg col.header).trans (Column.le_widen _ _)
  obtain ⟨hmap, hnonneg⟩ := hrows t.rows _ hheaders
  refine ⟨hmap.trans ?_, hnonneg⟩
  rw [List.map_map]
  rfl

/-- So do the columns that `calculateWidths` leaves. -/
theorem sizedColumns_spec (hcols : t.columns ≠ []) :
    t.sizedColumns.map Column.headers = t.columns.map Column.headers ∧
      (0 ≤ t.config.maxCellWidth → ∀ col ∈ t.sizedColumns, 0 ≤ col.width) := by
  obtain ⟨front, last, hraw⟩ := exists_rawColumns hcols
  obtain ⟨hheaders, hnonneg⟩ := t.rawColumns_spec
  rw [sizedColumns_eq hraw]
  refine ⟨?_, fun hmax => ?_⟩
  · rw [← hheaders, hraw, List.map_append, List.map_append, List.map_map]
    rfl
  · have hlimit (col : Column) (hcol : col ∈ t.rawColumns) :
        0 ≤ (col.limit t.config.maxCellWidth).width := Column.limit_nonneg hmax (hnonneg col hcol)
    rw [hraw] at hlimit
    refine List.forall_mem_append.mpr ⟨List.forall_mem_map.mpr fun col hcol => ?_,
      List.forall_mem_singleton.mpr ?_⟩
    · exact hlimit col (List.mem_append_left _ hcol)
    · exact (hlimit last (by simp)).trans le_foldl_max

theorem calculateWidths_spec (t : TableBuilder) :
    t.calculateWidths = { t with
      columns := t.calculateWidths.columns, widthsCalculated := t.calculateWidths.widthsCalculated } ∧
    t.calculateWidths.columns.map Column.headers = t.columns.map Column.headers ∧
    (0 ≤ t.config.maxCellWidth → t.Nonneg → t.calculateWidths.Nonneg) := by
  rw [calculateWidths]
  split
  case isTrue => exact ⟨rfl, rfl, fun _ h => h⟩
  case isFalse h =>
    rw [not_or, not_or] at h
    obtain ⟨hheaders, hnonneg⟩ := sizedColumns_spec h.2.1
    exact ⟨rfl, hheaders, fun hmax _ => hnonneg hmax⟩

theorem OneLine.calculateWidths (hone : t.OneLine) : t.calculateWidths.OneLine := by
  obtain ⟨heq, hheaders, -⟩ := t.calculateWidths_spec
  have hcolumns : ∀ col ∈ t.calculateWidths.columns, ∀ text ∈ col.headers, 10 ∉ text := by
    intro col hcol
    have hmem := List.mem_map_of_mem (f := Column.headers) hcol
    rw [hheaders] at hmem
    obtain ⟨col', hcol', hsame⟩ := List.mem_map.mp hmem
    exact hsame ▸ hone.headers col' hcol'
  rw [heq]
  exact { hone with headers := hcolumns }

/-- When the lines of a table are equally wide: without columns, where the message is as wide as the
table would be, and else where every text takes the width that it is given. -/
def Fits (t : TableBuilder) : Prop :=
  if t.columns = [] then t.config.showRowNumbers = true ∧ (decimal t.rows.length).length = 20
  else t.calculateWidths.FlushTexts

/-- **The lines of a table are equally wide** where all texts take the widths that they are given, and
only there, unless a width is negative. -/
theorem toTableString_framed_iff (t : TableBuilder) (hone : t.OneLine) :
    (t.Fits → t.Framed) ∧
      (t.Nonneg → 0 ≤ t.config.maxCellWidth → (t.Framed ↔ t.Fits)) := by
  obtain ⟨-, hheaders, hnonneg⟩ := t.calculateWidths_spec
  rw [Framed, Fits, toTableString]
  by_cases hnil : t.columns = []
  · have hiff : (∀ line ∈ linesOf 10 (ascii "[Empty Table - No Columns]\n"),
        displayWidth line = t.getTotalWidth) ↔
        t.config.showRowNumbers = true ∧ (decimal t.rows.length).length = 20 := by
      have hmessage : linesOf 10 (ascii "[Empty Table - No Columns]\n") =
          [ascii "[Empty Table - No Columns]"] := by decide
      have hwidth : displayWidth (ascii "[Empty Table - No Columns]") = 26 := rfl
      have hcalc : t.calculateWidths = t := if_pos (.inr (.inl hnil))
      rw [hmessage, List.forall_mem_singleton, hwidth, getTotalWidth, hcalc, hnil, List.map_nil,
        List.sum_nil]
      split
      case isTrue h =>
        rw [rowNumWidth, if_pos h, and_iff_right h]
        omega
      case isFalse h => exact iff_of_false (by omega) fun h' => h h'.1
    rw [if_pos hnil, if_pos hnil, hiff]
    exact ⟨id, fun _ _ => Iff.rfl⟩
  · rw [if_neg hnil, if_neg hnil, getTotalWidth_eq]
    have hcols : t.calculateWidths.columns ≠ [] := by
      intro h
      rw [h] at hheaders
      exact hnil (List.map_eq_nil_iff.mp hheaders.symm)
    refine ⟨fun h => ?_, fun hwidths hmax => ?_⟩
    · exact (forall_linesOf_tableText hone.calculateWidths hcols h.nonneg).mpr h
    · exact forall_linesOf_tableText hone.calculateWidths hcols (hnonneg hmax hwidths)

/-- The characters of `bordered`. -/
def borderedConfig : TableConfig := { borderChar := 45, cornerChar := 43, verticalChar := 124 }

/-- A table with one column and one row. -/
def oneFan : TableBuilder :=
  { columns := [⟨ascii "Fan", [], 1, .left⟩], rows := [{ cells := [ascii "fan0"] }],
    suppressHeaderSep := false, suppressHeaderColSep := false, suppressDataColSep := false,
    config := borderedConfig }

/-- All its lines are equally wide. -/
theorem toTableString_framed_iff_oneFan : oneFan.Framed :=
  (toTableString_framed_iff oneFan
    { borderChar := by decide, cornerChar := by decide, verticalChar := by decide,
      emptyCellText := by decide, noDataText := by decide, headers := by decide
      cells := by decide, multiLineCells := by decide
      spans := fun row hrow text htext => by
        obtain rfl := List.mem_singleton.mp hrow
        exact absurd htext (by simp) }).1 <| by
  have hcolumns : oneFan.calculateWidths.columns = [⟨ascii "Fan", [], 6, .left⟩] := by decide
  have hrows : oneFan.calculateWidths.shownRows = [.lines [[ascii "fan0"]]] := by decide
  rw [Fits, if_neg (by decide)]
  refine ⟨by decide, by decide, by decide, ?_, ?_, ?_, ?_⟩
  · rw [hcolumns]
    decide
  · exact fun row hrow => absurd hrow (by rw [oneFan.calculateWidths_spec.1]; exact List.not_mem_nil)
  · rw [hcolumns, hrows, List.forall_mem_singleton]
    exact fun contents hcontents => by
      obtain rfl := List.mem_singleton.mp hcontents
      decide
  · exact fun hnil => absurd hnil (by rw [oneFan.calculateWidths_spec.1]; exact List.cons_ne_nil _ _)

/-- A table without rows whose column is narrower than the text that says so. -/
def noFans : TableBuilder := { oneFan with rows := [] }

/-- Its text does not fit between the borders. -/
theorem toTableString_noData_unframed : noFans.OneLine ∧ ¬noFans.Framed := by
  refine ⟨⟨by decide, by decide, by decide, by decide, by decide, by decide, by decide, by decide,
    by decide⟩, fun h => ?_⟩
  have hline : ascii "| No data |" ∈ linesOf 10 noFans.toTableString := by decide
  exact absurd (h _ hline) (by decide)

end TableBuilder

end Table

end XpuManager
