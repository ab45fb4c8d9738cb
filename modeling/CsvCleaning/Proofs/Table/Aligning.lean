import CsvCleaning.Proofs.Table.Browsing
import CsvCleaning.Proofs.Text.Joining
import Mathlib.Data.List.Forall2
import Mathlib.Order.Bounds.Basic
import Mathlib.Order.MinMax

/-!
# Columns that stand below each other

The column names, the line below them and the rows of a page are put together alike: one piece for each
column, as wide as the column, and three characters between two. A column is as wide as the widest of
its name and the cells that are shown in it, so filling a piece up cuts nothing off, and every column
stands at the same characters of all lines.
-/

namespace CsvCleaning

/-! ### Cut cells -/

namespace Cell

/-- What is shown of a text that is longer than the limit: so many characters and three dots. -/
theorem toList_truncate_of_lt {text : String} {limit : Nat} (h : limit < text.toList.length) :
    (truncate text limit).toList = text.toList.take limit ++ ['.', '.', '.'] := by
  rw [truncate, if_neg (Nat.not_le.mpr h), String.toList_append, String.toList_ofList]
  rfl

/-- A shown cell is its text cut to fifty characters: all of a text that is no longer, and else the
first fifty and three dots. -/
structure IsCut (text shown : String) : Prop where
  whole : text.toList.length ≤ 50 → shown = text
  cut : 50 < text.toList.length → shown.toList = text.toList.take 50 ++ ['.', '.', '.']
  length : shown.toList.length ≤ 53

/-- Every shown cell is. -/
theorem isCut_shown (cell : Option Json) : IsCut (displayText cell) (shown cell) where
  whole := truncate_of_le
  cut := toList_truncate_of_lt
  length := by
    rcases Nat.lt_or_ge 50 (displayText cell).toList.length with hlong | hshort
    · exact Nat.le_of_eq (length_truncate_of_lt hlong)
    · have hwhole : shown cell = displayText cell := truncate_of_le hshort
      rw [hwhole]
      omega

end Cell

namespace View

/-- The characters of a text from a place on. -/
def charsAt (s : String) (start count : Nat) : List Char :=
  (s.toList.drop start).take count

/-- The place where a column begins: behind the columns before it, each with three characters after
it. -/
def columnStart (widths : List Nat) (i : Nat) : Nat :=
  (widths.take i).sum + 3 * i

/-! ### Pieces of the widths of the columns -/

section Pieces

variable {between : String} {pieces : List String} {widths : List Nat}

/-- The width of pieces put together. -/
theorem width_intercalate (hbetween : width between = 3) (hwidths : pieces.map width = widths) :
    width (between.intercalate pieces) = widths.sum + 3 * (widths.length - 1) := by
  rw [width] at hbetween
  rw [width, String.toList_intercalate, Text.length_intercalate, hbetween, List.map_map, ← hwidths,
    List.length_map, List.length_map]
  rfl

variable {i : Nat} {piece : String}

/-- The places of pieces put together, in terms of their widths. -/
theorem columnStart_eq (hbetween : width between = 3) (hwidths : pieces.map width = widths) :
    columnStart widths i = (((pieces.map String.toList).take i).map List.length).sum +
      between.toList.length * i := by
  rw [width] at hbetween
  rw [columnStart, hbetween, ← hwidths, ← List.map_take, ← List.map_take, List.map_map]
  rfl

/-- A piece stands at the place of its column. -/
theorem charsAt_intercalate (hbetween : width between = 3) (hwidths : pieces.map width = widths)
    (h : pieces[i]? = some piece) :
    charsAt (between.intercalate pieces) (columnStart widths i) (width piece) = piece.toList := by
  have hpiece : (pieces.map String.toList)[i]? = some piece.toList := by
    rw [List.getElem?_map, h, Option.map_some]
  rw [charsAt, columnStart_eq hbetween hwidths, String.toList_intercalate]
  exact Text.take_drop_intercalate _ hpiece

/-- Behind a piece that is not the last is what is put between. -/
theorem charsAt_intercalate_between (hbetween : width between = 3)
    (hwidths : pieces.map width = widths) (h : pieces[i]? = some piece)
    (hnext : i + 1 < pieces.length) :
    charsAt (between.intercalate pieces) (columnStart widths i + width piece) 3 =
      between.toList := by
  have hpiece : (pieces.map String.toList)[i]? = some piece.toList := by
    rw [List.getElem?_map, h, Option.map_some]
  rw [charsAt, columnStart_eq hbetween hwidths, String.toList_intercalate]
  rw [width] at hbetween
  rw [← hbetween]
  exact Text.take_drop_intercalate_between _ hpiece (by rwa [List.length_map])

end Pieces

/-! ### Widths -/

/-- A fold of maxima is the greatest of the values and the one it begins with. -/
theorem isGreatest_foldl_max (a : Nat) (l : List Nat) :
    IsGreatest {n | n = a ∨ n ∈ l} (l.foldl max a) := by
  induction l generalizing a with
  | nil => simp [IsGreatest, upperBounds]
  | cons b l ih =>
    obtain ⟨hmem, hupper⟩ := ih (max a b)
    rw [List.foldl_cons]
    constructor
    · rcases hmem with h | h
      · rcases max_choice a b with ha | hb
        · exact .inl (h.trans ha)
        · exact .inr (List.mem_cons.mpr (.inl (h.trans hb)))
      · exact .inr (List.mem_cons_of_mem b h)
    · have hstart := hupper (.inl rfl)
      rintro n (rfl | hn)
      · exact (le_max_left ..).trans hstart
      · rcases List.mem_cons.mp hn with rfl | hn
        · exact (le_max_right ..).trans hstart
        · exact hupper (.inr hn)

/-- The width of a column with some rows: the greatest of its name and the cells shown in it. -/
def IsWidest (rows : List Row) (name : String) (w : Nat) : Prop :=
  IsGreatest {n | n = width name ∨ ∃ row ∈ rows, n = width (Cell.shown (row.get? name))} w

/-- There is a width for each column. -/
theorem length_columnWidths (columns : List String) (cells : List (List String)) :
    (columnWidths columns cells).length = columns.length := by
  rw [columnWidths, List.length_map, List.length_zipIdx]

/-- It is the greatest of the column. -/
theorem isWidest_columnWidths {columns : List String} {rows : List Row} {i : Nat} {name : String}
    {w : Nat} (hname : columns[i]? = some name)
    (hw : (columnWidths columns (rows.map (rowCells columns)))[i]? = some w) :
    IsWidest rows name w := by
  have hcell (row : Row) : (rowCells columns row).getD i "" = Cell.shown (row.get? name) := by
    rw [rowCells, List.getD_eq_getElem?_getD, List.getElem?_map, hname]
    rfl
  rw [columnWidths, List.getElem?_map, List.getElem?_zipIdx, hname] at hw
  obtain rfl := Option.some.inj hw
  have hgreatest := isGreatest_foldl_max (width name)
    (rows.map fun row => width (Cell.shown (row.get? name)))
  simpa only [IsWidest, Nat.zero_add, List.map_map, Function.comp_def, hcell, List.mem_map,
    eq_comm] using hgreatest

/-- Cells that are no wider than their columns. -/
def Fits (cells : List String) (widths : List Nat) : Prop :=
  List.Forall₂ (fun s w => width s ≤ w) cells widths

section Fitting

variable (columns : List String) (rows : List Row)

/-- The widths of a page are the greatest, column by column. -/
theorem forall₂_isWidest :
    List.Forall₂ (IsWidest rows) columns (columnWidths columns (rows.map (rowCells columns))) := by
  refine List.forall₂_iff_get.mpr ⟨(length_columnWidths ..).symm, fun i hi hw => ?_⟩
  exact isWidest_columnWidths (List.getElem?_eq_getElem hi) (List.getElem?_eq_getElem hw)

/-- The names of the columns fit. -/
theorem fits_columns : Fits columns (columnWidths columns (rows.map (rowCells columns))) :=
  (forall₂_isWidest columns rows).imp fun _ _ h => h.2 (.inl rfl)

/-- The cells of each row of the page fit. -/
theorem fits_rowCells {row : Row} (h : row ∈ rows) :
    Fits (rowCells columns row) (columnWidths columns (rows.map (rowCells columns))) :=
  List.forall₂_map_left_iff.mpr
    ((forall₂_isWidest columns rows).imp fun _ _ hw => hw.2 (.inr ⟨row, h, rfl⟩))

end Fitting

/-! ### Filling up -/

/-- A text that fits is filled up with spaces. -/
theorem toList_padRight (s : String) (w : Nat) :
    (padRight s w).toList = s.toList ++ List.replicate (w - width s) ' ' := by
  rw [padRight, String.toList_ofList]

/-- Then it has the width asked for. -/
theorem width_padRight {s : String} {w : Nat} (h : width s ≤ w) : width (padRight s w) = w := by
  rw [width, toList_padRight, List.length_append, List.length_replicate]
  exact Nat.add_sub_cancel' h

namespace Fits

variable {cells : List String} {widths : List Nat}

/-- Cells that fit are filled up to the widths. -/
theorem map_width (h : Fits cells widths) : (List.zipWith padRight cells widths).map width = widths := by
  induction h with
  | nil => rfl
  | cons hfit _ ih => rw [List.zipWith_cons_cons, List.map_cons, width_padRight hfit, ih]

/-- The width of a line of cells that fit. -/
theorem width_joinPadded (h : Fits cells widths) :
    width (joinPadded cells widths) = widths.sum + 3 * (widths.length - 1) :=
  width_intercalate rfl h.map_width

variable {i : Nat} {s : String} {w : Nat}

/-- Each cell is no wider than its column. -/
theorem width_le (h : Fits cells widths) (hs : cells[i]? = some s) (hw : widths[i]? = some w) :
    width s ≤ w := by
  obtain ⟨hi, rfl⟩ := List.getElem?_eq_some_iff.mp hs
  obtain ⟨hi', rfl⟩ := List.getElem?_eq_some_iff.mp hw
  exact h.get hi hi'

/-- The pieces of a line are the cells, filled up. -/
theorem getElem?_zipWith (hs : cells[i]? = some s) (hw : widths[i]? = some w) :
    (List.zipWith padRight cells widths)[i]? = some (padRight s w) :=
  List.getElem?_zipWith_eq_some.mpr ⟨s, w, hs, hw, rfl⟩

/-- The range of a column in a line holds the cell and behind it only spaces. -/
theorem charsAt_joinPadded (h : Fits cells widths) (hs : cells[i]? = some s)
    (hw : widths[i]? = some w) :
    charsAt (joinPadded cells widths) (columnStart widths i) w =
      s.toList ++ List.replicate (w - width s) ' ' := by
  have hbar : width " | " = 3 := rfl
  have hpiece := charsAt_intercalate hbar h.map_width (getElem?_zipWith hs hw)
  rwa [width_padRight (h.width_le hs hw), toList_padRight] at hpiece

/-- Between two columns of a line is a bar. -/
theorem charsAt_joinPadded_gap (h : Fits cells widths) (hs : cells[i]? = some s)
    (hw : widths[i]? = some w) (hnext : i + 1 < widths.length) :
    charsAt (joinPadded cells widths) (columnStart widths i + w) 3 = " | ".toList := by
  have hbar : width " | " = 3 := rfl
  have hlength : i + 1 < (List.zipWith padRight cells widths).length := by
    rwa [← List.length_map (f := width), h.map_width]
  have hgap := charsAt_intercalate_between hbar h.map_width (getElem?_zipWith hs hw) hlength
  rwa [width_padRight (h.width_le hs hw)] at hgap

end Fits

/-! ### The line below the column names -/

section Separator

variable {widths : List Nat} {i w : Nat}

/-- A piece of the line below the column names. -/
def dashes (w : Nat) : String :=
  String.ofList (List.replicate w '-')

/-- A piece has the width asked for. -/
theorem width_dashes (w : Nat) : width (dashes w) = w := by
  rw [width, dashes, String.toList_ofList, List.length_replicate]

/-- The pieces have the widths of the columns. -/
theorem map_width_dashes (widths : List Nat) : (widths.map dashes).map width = widths := by
  simp only [List.map_map, Function.comp_def, width_dashes, List.map_id']

/-- The width of the line. -/
theorem width_separator (widths : List Nat) :
    width (separator widths) = widths.sum + 3 * (widths.length - 1) :=
  width_intercalate rfl (map_width_dashes widths)

/-- The range of a column in the line holds dashes. -/
theorem charsAt_separator (hw : widths[i]? = some w) :
    charsAt (separator widths) (columnStart widths i) w = List.replicate w '-' := by
  have hcross : width "-+-" = 3 := rfl
  have hpiece : (widths.map dashes)[i]? = some (dashes w) := by
    rw [List.getElem?_map, hw, Option.map_some]
  have hat := charsAt_intercalate hcross (map_width_dashes widths) hpiece
  rwa [width_dashes, dashes, String.toList_ofList] at hat

/-- Between two columns of the line is a cross. -/
theorem charsAt_separator_gap (hw : widths[i]? = some w) (hnext : i + 1 < widths.length) :
    charsAt (separator widths) (columnStart widths i + w) 3 = "-+-".toList := by
  have hcross : width "-+-" = 3 := rfl
  have hpiece : (widths.map dashes)[i]? = some (dashes w) := by
    rw [List.getElem?_map, hw, Option.map_some]
  have hgap := charsAt_intercalate_between hcross (map_width_dashes widths) hpiece
    (by rwa [List.length_map])
  rwa [width_dashes] at hgap

end Separator

/-! ### The page -/

/-- The lines of a page between those above the rows and those below: one for each row, or one in place
of the rows. -/
def bodyLines (v : View) (t : ResultTable) : List String :=
  let widths := columnWidths t.columns (v.pageCells t)
  if v.pageRows.isEmpty then [v.emptyMessage]
  else v.pageRows.map fun row => joinPadded (rowCells t.columns row) widths

/-- The lines of a page below the rows, if there are other pages. -/
def footerLines (v : View) (t : ResultTable) : List String :=
  if 1 < v.totalPages then v.showingLines t ++ [v.pagesLine] else []

/-- The lines of a page without colour. -/
theorem renderLines_false (v : View) (t : ResultTable) :
    let widths := columnWidths t.columns (v.pageCells t)
    v.renderLines t false =
      [headerLine t, joinPadded t.columns widths, separator widths] ++ v.bodyLines t ++
        v.footerLines t := by
  simp only [renderLines, Text.style_false, bodyLines, pageCells, List.map_map, List.isEmpty_map]
  rfl

/-- A page without colour begins with the lines that are made up of columns. -/
theorem exists_renderLines_eq (v : View) (t : ResultTable) :
    let widths := columnWidths t.columns (v.pageCells t)
    ∃ rest, v.renderLines t false =
      [headerLine t, joinPadded t.columns widths, separator widths] ++
      (v.pageRows.map fun row => joinPadded (rowCells t.columns row) widths) ++ rest := by
  intro widths
  simp only [renderLines_false, bodyLines]
  cases v.pageRows with
  | nil => exact ⟨v.emptyMessage :: v.footerLines t, rfl⟩
  | cons row more => exact ⟨v.footerLines t, rfl⟩

/-- What is rendered of a view that was browsed is the lines of its page, each ended by a line break. -/
theorem render_after (t : ResultTable) (size : Nat) (actions : List Action) (color : Bool) :
    ((ofTable (some t) size).after actions).render color = some (String.join
      ((((ofTable (some t) size).after actions).renderLines t color).map (· ++ "\n"))) := by
  rw [render, table_after]
  rfl

/-- A column that is aligned on a page of some rows. It is as wide as the widest of its name and the
cells shown in it. In the line of column names its range holds the name and spaces behind it, in the
line below it dashes, and in the line of each row the cell's text, cut to fifty characters, and spaces
behind it. Where another column follows, three characters in every line set them apart. -/
structure AlignedColumn (t : ResultTable) (rows : List Row) (widths : List Nat) (i : Nat)
    (name : String) (w : Nat) : Prop where
  widest : IsWidest rows name w
  heading : charsAt (joinPadded t.columns widths) (columnStart widths i) w =
    name.toList ++ List.replicate (w - width name) ' '
  rule : charsAt (separator widths) (columnStart widths i) w = List.replicate w '-'
  cut : ∀ row ∈ rows, Cell.IsCut (Cell.displayText (row.get? name)) (Cell.shown (row.get? name))
  cell : ∀ row ∈ rows, charsAt (joinPadded (rowCells t.columns row) widths) (columnStart widths i) w =
    (Cell.shown (row.get? name)).toList ++
      List.replicate (w - width (Cell.shown (row.get? name))) ' '
  gap : i + 1 < t.columns.length →
    charsAt (joinPadded t.columns widths) (columnStart widths i + w) 3 = " | ".toList ∧
    charsAt (separator widths) (columnStart widths i + w) 3 = "-+-".toList ∧
    ∀ row ∈ rows, charsAt (joinPadded (rowCells t.columns row) widths) (columnStart widths i + w) 3 =
      " | ".toList

/-- Every column of some rows is aligned at the widths of these rows. -/
theorem alignedColumn (t : ResultTable) (rows : List Row) {i : Nat} {name : String} {w : Nat}
    (hname : t.columns[i]? = some name)
    (hw : (columnWidths t.columns (rows.map (rowCells t.columns)))[i]? = some w) :
    AlignedColumn t rows (columnWidths t.columns (rows.map (rowCells t.columns))) i name w := by
  have hcolumns := fits_columns t.columns rows
  have hrows {row : Row} (hrow : row ∈ rows) := fits_rowCells t.columns rows hrow
  have hlength := length_columnWidths t.columns (rows.map (rowCells t.columns))
  have hcell (row : Row) :
      (rowCells t.columns row)[i]? = some (Cell.shown (row.get? name)) := by
    rw [rowCells, List.getElem?_map, hname, Option.map_some]
  generalize hwidths : columnWidths t.columns (rows.map (rowCells t.columns)) = widths
    at hw hcolumns hrows hlength ⊢
  exact {
    widest := isWidest_columnWidths hname (hwidths ▸ hw)
    heading := hcolumns.charsAt_joinPadded hname hw
    rule := charsAt_separator hw
    cut := fun row _ => Cell.isCut_shown _
    cell := fun row hrow => (hrows hrow).charsAt_joinPadded (hcell row) hw
    gap := fun hnext => by
      rw [← hlength] at hnext
      exact ⟨hcolumns.charsAt_joinPadded_gap hname hw hnext, charsAt_separator_gap hw hnext,
        fun row hrow => (hrows hrow).charsAt_joinPadded_gap (hcell row) hw hnext⟩ }

end View

end CsvCleaning
