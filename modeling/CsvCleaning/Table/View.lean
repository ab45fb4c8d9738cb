import CsvCleaning.Table.Cell
import CsvCleaning.Table.Result
import CsvCleaning.Text.LowerCase
import CsvCleaning.Text.Search
import CsvCleaning.Text.Style

/-!
# Views of a table

A view keeps the rows in which some cell has the search term, whatever the case of letters, and
shows one page of them at a time. The page stays between the first and the last; a view without
rows, or without a table, stays on page one.
-/

namespace CsvCleaning

/-- A searched and paged table. -/
structure View where
  table : Option ResultTable
  pageSize : Nat
  page : Nat
  term : String
  filtered : List Row
deriving DecidableEq

namespace View

/-- The page size that is used unless another is chosen. -/
def defaultPageSize : Nat :=
  10

/-- Decide whether a row has a cell in which a lower-case term occurs. -/
def matchesTerm (needle : List Char) (row : Row) : Bool :=
  row.values.any fun v => Text.occursIn needle (Text.lower (Cell.searchText v).toList)

/-- The rows of a table that a term selects, in order; the empty term selects all. -/
def select (table : Option ResultTable) (term : String) : List Row :=
  match table with
  | none => []
  | some t =>
    let needle := Text.lower term.toList
    t.rows.filter fun row => needle.isEmpty || matchesTerm needle row

/-- The view of all rows at the first page; a page has at least one row. -/
def ofTable (table : Option ResultTable) (pageSize : Nat) : View :=
  { table
    pageSize := max pageSize 1
    page := 1
    term := ""
    filtered := select table "" }

/-- Look for a term, from the first page. -/
def search (v : View) (term : String) : View :=
  { v with term, page := 1, filtered := select v.table term }

/-- The number of pages. -/
def totalPages (v : View) : Nat :=
  (v.filtered.length + v.pageSize - 1) / v.pageSize

/-- Go to a page, or to the nearest there is. -/
def goTo (v : View) (page : Nat) : View :=
  { v with page := max (min page v.totalPages) 1 }

/-- Go to the page after this one. -/
def next (v : View) : View :=
  v.goTo (v.page + 1)

/-- Go to the page before this one. -/
def previous (v : View) : View :=
  v.goTo (v.page - 1)

/-- The number of rows before this page. -/
def startIndex (v : View) : Nat :=
  (v.page - 1) * v.pageSize

/-- The rows of this page. -/
def pageRows (v : View) : List Row :=
  (v.filtered.drop v.startIndex).take v.pageSize

/-- The most pages offered for direct navigation. -/
def windowSize : Nat :=
  5

/-- The first page offered for direct navigation. -/
def windowStart (v : View) : Nat :=
  if v.totalPages ≤ windowSize ∨ v.page ≤ 3 then 1
  else if v.totalPages ≤ v.page + 2 then v.totalPages + 1 - windowSize
  else v.page - 2

/-- The pages offered for direct navigation, around this one. -/
def pageWindow (v : View) : List Nat :=
  List.range' v.windowStart (min v.totalPages windowSize)

/-- The first and the last row shown and the number of all, counted from one. -/
def showingRange (v : View) : Option (Nat × Nat × Nat) :=
  if v.pageRows.isEmpty then none
  else some (v.startIndex + 1, v.startIndex + v.pageRows.length, v.filtered.length)

/-- The line above the table. -/
def headerLine (t : ResultTable) : String :=
  toString t.totalRows ++ " rows • " ++ toString t.columns.length ++ " columns"

/-- The shown cells of a row in column order. -/
def rowCells (columns : List String) (row : Row) : List String :=
  columns.map fun c => Cell.shown (row.get? c)

/-- The shown cells of this page. -/
def pageCells (v : View) (t : ResultTable) : List (List String) :=
  v.pageRows.map (rowCells t.columns)

/-- The number of characters of a text. -/
def width (s : String) : Nat :=
  s.toList.length

/-- The widths of the columns: the widest of the name and the cells of the page. -/
def columnWidths (columns : List String) (cells : List (List String)) : List Nat :=
  columns.zipIdx.map fun e =>
    (cells.map fun row => width (row.getD e.2 "")).foldl max (width e.1)

/-- A text filled up with spaces at the end. -/
def padRight (s : String) (w : Nat) : String :=
  String.ofList (s.toList ++ List.replicate (w - width s) ' ')

/-- Cells filled up to their columns, with bars between them. -/
def joinPadded (cells : List String) (widths : List Nat) : String :=
  " | ".intercalate (List.zipWith padRight cells widths)

/-- The line between the column names and the rows. -/
def separator (widths : List Nat) : String :=
  "-+-".intercalate (widths.map fun w => String.ofList (List.replicate w '-'))

/-- The line in place of the rows when there are none. -/
def emptyMessage (v : View) : String :=
  if v.term = "" then "No data available" else "No results found"

/-- The line that says which rows are shown. -/
def showingLines (v : View) (t : ResultTable) : List String :=
  match v.showingRange with
  | none => []
  | some (first, last, all) =>
    ["Showing " ++ toString first ++ " to " ++ toString last ++ " of " ++ toString all ++
      " results" ++
      (if v.term = "" then "" else " (filtered from " ++ toString t.totalRows ++ " total)")]

/-- The line of pages for direct navigation, this one in brackets. -/
def pagesLine (v : View) : String :=
  "Page " ++ toString v.page ++ "/" ++ toString v.totalPages ++ ": " ++
    " ".intercalate (v.pageWindow.map fun p =>
      if p = v.page then "[" ++ toString p ++ "]" else toString p)

/-- The pieces of text that make up the rendered page, each on a line of its own. -/
def renderLines (v : View) (t : ResultTable) (color : Bool) : List String :=
  let cells := v.pageCells t
  let widths := columnWidths t.columns cells
  [headerLine t, Text.style color [.bold] (joinPadded t.columns widths), separator widths] ++
    (if cells.isEmpty then [v.emptyMessage] else cells.map (joinPadded · widths)) ++
    (if 1 < v.totalPages then v.showingLines t ++ [v.pagesLine] else [])

/-- The rendered page; nothing without a table. -/
def render (v : View) (color : Bool) : Option String :=
  v.table.map fun t => String.join ((v.renderLines t color).map (· ++ "\n"))

/-- A page has at least one row of room. -/
theorem one_le_pageSize_ofTable (table : Option ResultTable) (pageSize : Nat) :
    1 ≤ (ofTable table pageSize).pageSize :=
  Nat.le_max_right ..

/-- Every page is at least the first. -/
theorem one_le_page_goTo (v : View) (page : Nat) : 1 ≤ (v.goTo page).page :=
  Nat.le_max_right ..

/-- The empty term selects every row. -/
theorem select_empty (t : ResultTable) : select (some t) "" = t.rows := by
  simp [select, Text.lower, Text.lowerAfter]

end View

end CsvCleaning
