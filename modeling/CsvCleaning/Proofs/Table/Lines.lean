import CsvCleaning.Proofs.Json.Printing
import CsvCleaning.Proofs.Table.Aligning

/-!
# The lines of a rendered page

A page is put together of lines, and each is ended by a line break. It has just these lines if no line
break is within one of them. None is in a number, an array or an object, nor in what the view says by
itself; but the names of columns and cells of text are put into the lines as they are, so every line
break in them, as far as it is shown, makes one line more.
-/

namespace CsvCleaning

/-! ### Lines -/

namespace Text

/-- There is one part more than there are separators. -/
theorem length_splitWhere {α : Type} [DecidableEq α] (a : α) (xs : List α) :
    (splitWhere (· == a) xs).length = xs.count a + 1 := by
  induction xs with
  | nil => rfl
  | cons x rest ih =>
    by_cases hx : x = a
    · rw [hx, splitWhere, if_pos (by simp), List.length_cons, ih, List.count_cons_self]
    · obtain ⟨part, more, hparts⟩ := List.exists_cons_of_ne_nil (splitWhere_ne_nil (· == a) rest)
      rw [hparts] at ih
      rw [splitWhere, if_neg (by simpa using hx), hparts, List.count_cons_of_ne hx, ← ih]
      rfl

/-- The lines of a text. A last line need not be ended by a line break, unless it is empty. -/
def lines (s : String) : List (List Char) :=
  let parts := splitWhere (· == '\n') s.toList
  if parts.getLast? = some [] then parts.dropLast else parts

/-- The number of line breaks within some texts. -/
def breaksIn (ls : List String) : Nat :=
  (ls.map fun l => l.toList.count '\n').sum

section Joined

variable (ls : List String)

/-- Without texts there are none. -/
@[simp]
theorem breaksIn_nil : breaksIn [] = 0 :=
  rfl

/-- The line breaks of texts, from the first on. -/
@[simp]
theorem breaksIn_cons (l : String) : breaksIn (l :: ls) = l.toList.count '\n' + breaksIn ls :=
  rfl

/-- The line breaks of texts behind others. -/
@[simp]
theorem breaksIn_append (more : List String) : breaksIn (ls ++ more) = breaksIn ls + breaksIn more := by
  rw [breaksIn, List.map_append, List.sum_append]
  rfl

/-- There are none within texts that are single lines, and only then. -/
theorem breaksIn_eq_zero_iff : breaksIn ls = 0 ↔ ∀ l ∈ ls, '\n' ∉ l.toList := by
  simp only [breaksIn, List.sum_eq_zero_iff_forall_eq_nat, List.forall_mem_map, List.count_eq_zero]

/-- The lines of a text that was put together of lines, each ended by a line break, are these lines,
parted at the line breaks within them. -/
theorem lines_join :
    lines (String.join (ls.map (· ++ "\n"))) =
      ls.flatMap fun l => splitWhere (· == '\n') l.toList := by
  have htext : (String.join (ls.map (· ++ "\n"))).toList =
      (ls.map String.toList).flatMap (· ++ ['\n']) := by
    rw [String.toList_join, List.flatMap_map, List.flatMap_map]
    simp only [String.toList_append]
    rfl
  rw [lines, htext, splitWhere_flatMap_append rfl, List.getLast?_concat, if_pos rfl,
    List.dropLast_concat, List.flatMap_map]

/-- There are as many lines more as there are line breaks within them. -/
theorem length_lines_join :
    (lines (String.join (ls.map (· ++ "\n")))).length = ls.length + breaksIn ls := by
  rw [lines_join]
  induction ls with
  | nil => rfl
  | cons l rest ih =>
    rw [List.flatMap_cons, List.length_append, ih, length_splitWhere, List.length_cons, breaksIn_cons]
    omega

/-- Lines without line breaks are found again. -/
theorem lines_join_of_breaksIn (h : breaksIn ls = 0) :
    lines (String.join (ls.map (· ++ "\n"))) = ls.map String.toList := by
  have hwhole : ∀ l ∈ ls.map String.toList, ∀ c ∈ l, (c == '\n') = false := by
    intro l hl c hc
    obtain ⟨s, hs, rfl⟩ := List.mem_map.mp hl
    exact beq_eq_false_iff_ne.mpr fun heq => (breaksIn_eq_zero_iff ls).mp h s hs (heq ▸ hc)
  rw [lines_join, ← List.flatMap_map, flatMap_splitWhere_of_all hwhole]

end Joined

end Text

/-! ### Line breaks in cells -/

namespace Cell

/-- Only of a text can control characters be shown. -/
theorem allPlain_displayText {cell : Option Json} (h : ∀ s, cell ≠ some (.text s)) :
    Text.AllPlain (displayText cell) := by
  unfold displayText
  split
  · decide
  · decide
  · decide
  · split
    · decide
    · exact JsonNumber.allPlain_write _ _
  · exact absurd rfl (h _)
  · exact Json.allPlain_print _
  · exact Json.allPlain_print _
  · exact Json.allPlain_print _

/-- A cut text has a line break if one is within the limit. -/
theorem lineBreak_mem_truncate {text : String} {limit : Nat} :
    '\n' ∈ (truncate text limit).toList ↔ '\n' ∈ text.toList.take limit := by
  rcases Nat.lt_or_ge limit text.toList.length with hlong | hshort
  · rw [toList_truncate_of_lt hlong, List.mem_append]
    exact or_iff_left (by decide)
  · rw [truncate_of_le hshort, List.take_of_length_le hshort]

/-- A line break is shown of a cell if it is one of the first fifty characters of a text. -/
theorem lineBreak_mem_shown {cell : Option Json} :
    '\n' ∈ (shown cell).toList ↔ ∃ s, cell = some (.text s) ∧ '\n' ∈ s.toList.take 50 := by
  rw [shown, lineBreak_mem_truncate]
  by_cases h : ∃ s, cell = some (.text s)
  · obtain ⟨s, rfl⟩ := h
    simp [displayText, displayLimit]
  · have hother : ∀ s, cell ≠ some (.text s) := fun s hs => h ⟨s, hs⟩
    have hplain := (allPlain_displayText hother).lineBreak_not_mem
    refine iff_of_false (fun hmem => hplain (List.mem_of_mem_take hmem)) ?_
    rintro ⟨s, hs, -⟩
    exact hother s hs

end Cell

namespace View

open Text (AllPlain breaksIn)

/-- The number of line breaks in the names of columns and in what is shown of the cells of rows. -/
def lineBreaks (columns : List String) (rows : List Row) : Nat :=
  breaksIn columns + (rows.map fun row => breaksIn (rowCells columns row)).sum

/-- No name of a column has a line break, and no text in the rows has one among the characters that are
shown. -/
structure Unbroken (columns : List String) (rows : List Row) : Prop where
  names : ∀ name ∈ columns, '\n' ∉ name.toList
  cells : ∀ row ∈ rows, ∀ name ∈ columns, ∀ s, row.get? name = some (.text s) →
    '\n' ∉ s.toList.take 50

/-- Then there are no line breaks, and only then. -/
theorem lineBreaks_eq_zero_iff {columns : List String} {rows : List Row} :
    lineBreaks columns rows = 0 ↔ Unbroken columns rows := by
  have hcell (row : Row) (name : String) : '\n' ∉ (Cell.shown (row.get? name)).toList ↔
      ∀ s, row.get? name = some (.text s) → '\n' ∉ s.toList.take 50 := by
    rw [Cell.lineBreak_mem_shown]
    simp only [not_exists, not_and]
  simp only [lineBreaks, Nat.add_eq_zero_iff, List.sum_eq_zero_iff_forall_eq_nat, List.forall_mem_map,
    Text.breaksIn_eq_zero_iff, rowCells, hcell]
  exact ⟨fun h => ⟨h.1, h.2⟩, fun h => ⟨h.names, h.cells⟩⟩

/-! ### Line breaks in the lines of a page -/

/-- To fill a text up adds no line break. -/
theorem count_padRight (s : String) (w : Nat) :
    (padRight s w).toList.count '\n' = s.toList.count '\n' := by
  rw [toList_padRight, List.count_append, List.count_replicate, if_neg (by decide), Nat.add_zero]

/-- A line of cells has the line breaks of its cells. -/
theorem Fits.count_joinPadded {cells : List String} {widths : List Nat} (h : Fits cells widths) :
    (joinPadded cells widths).toList.count '\n' = breaksIn cells := by
  have hpieces : breaksIn (List.zipWith padRight cells widths) = breaksIn cells := by
    induction h with
    | nil => rfl
    | cons _ _ ih =>
      rw [List.zipWith_cons_cons, Text.breaksIn_cons, Text.breaksIn_cons, count_padRight, ih]
  rw [joinPadded, String.toList_intercalate, Text.count_intercalate _ (by decide), List.map_map,
    ← hpieces]
  rfl

/-- A number is plain text. -/
theorem allPlain_toString (n : Nat) : AllPlain (toString n) :=
  allPlain_toString_int n

/-- A number after a plain text and before another. -/
theorem allPlain_number {before behind : String} (hbefore : AllPlain before) (n : Nat)
    (hbehind : AllPlain behind) : AllPlain (before ++ toString n ++ behind) :=
  (hbefore.append (allPlain_toString n)).append hbehind

/-- The line above a table is plain. -/
theorem allPlain_headerLine (t : ResultTable) : AllPlain (headerLine t) := by
  have hrows : AllPlain " rows • " := by decide
  have hcolumns : AllPlain " columns" := by decide
  exact allPlain_number ((allPlain_toString _).append hrows) _ hcolumns

/-- The line below the column names is plain. -/
theorem allPlain_separator (widths : List Nat) : AllPlain (separator widths) := by
  refine .intercalate (by decide) fun part hpart => ?_
  obtain ⟨w, -, rfl⟩ := List.mem_map.mp hpart
  intro c hc
  rw [String.toList_ofList] at hc
  obtain rfl := List.eq_of_mem_replicate hc
  decide

/-- The line in place of the rows is plain. -/
theorem allPlain_emptyMessage (v : View) : AllPlain v.emptyMessage := by
  unfold emptyMessage
  split <;> decide

/-- The line that says which rows are shown is plain. -/
theorem allPlain_showingLines (v : View) (t : ResultTable) :
    ∀ line ∈ v.showingLines t, AllPlain line := by
  have hshowing : AllPlain "Showing " := by decide
  have hto : AllPlain " to " := by decide
  have hof : AllPlain " of " := by decide
  have hresults : AllPlain " results" := by decide
  have hnone : AllPlain "" := by decide
  have hfrom : AllPlain " (filtered from " := by decide
  have htotal : AllPlain " total)" := by decide
  intro line hline
  unfold showingLines at hline
  split at hline
  · cases hline
  · obtain rfl := List.mem_singleton.mp hline
    refine .append (allPlain_number (allPlain_number (allPlain_number hshowing _ hto) _ hof) _
      hresults) ?_
    split
    · exact hnone
    · exact allPlain_number hfrom _ htotal

/-- The line of pages for direct navigation is plain. -/
theorem allPlain_pagesLine (v : View) : AllPlain v.pagesLine := by
  have hpage : AllPlain "Page " := by decide
  have hslash : AllPlain "/" := by decide
  have hcolon : AllPlain ": " := by decide
  have hspace : AllPlain " " := by decide
  have hopen : AllPlain "[" := by decide
  have hclose : AllPlain "]" := by decide
  rw [pagesLine]
  refine .append (allPlain_number (allPlain_number hpage _ hslash) _ hcolon)
    (hspace.intercalate fun part hpart => ?_)
  obtain ⟨p, -, rfl⟩ := List.mem_map.mp hpart
  split
  · exact allPlain_number hopen p hclose
  · exact allPlain_toString p

/-- The lines below the rows are plain. -/
theorem allPlain_footerLines (v : View) (t : ResultTable) :
    ∀ line ∈ v.footerLines t, AllPlain line := by
  intro line hline
  unfold footerLines at hline
  split at hline
  · rcases List.mem_append.mp hline with hshowing | hpages
    · exact allPlain_showingLines v t line hshowing
    · obtain rfl := List.mem_singleton.mp hpages
      exact allPlain_pagesLine v
  · cases hline

/-- Plain lines have no line breaks. -/
theorem breaksIn_eq_zero {ls : List String} (h : ∀ l ∈ ls, AllPlain l) : breaksIn ls = 0 :=
  (Text.breaksIn_eq_zero_iff ls).mpr fun l hl => (h l hl).lineBreak_not_mem

section Page

variable (v : View) (t : ResultTable)

/-- The lines between have the line breaks of the cells that are shown. -/
theorem breaksIn_bodyLines :
    breaksIn (v.bodyLines t) =
      (v.pageRows.map fun row => breaksIn (rowCells t.columns row)).sum := by
  rw [bodyLines]
  split
  · rename_i hnone
    rw [List.isEmpty_iff.mp hnone]
    exact breaksIn_eq_zero fun l hl => List.mem_singleton.mp hl ▸ allPlain_emptyMessage v
  · rw [breaksIn, List.map_map]
    exact congrArg List.sum (List.map_congr_left fun row hrow =>
      (fits_rowCells t.columns v.pageRows hrow).count_joinPadded)

/-- The lines of a page have the line breaks of the column names and of the cells that are shown. -/
theorem breaksIn_renderLines :
    breaksIn (v.renderLines t false) = lineBreaks t.columns v.pageRows := by
  have hheader := List.count_eq_zero.mpr (allPlain_headerLine t).lineBreak_not_mem
  have hheading := (fits_columns t.columns v.pageRows).count_joinPadded
  have hrule (widths : List Nat) :=
    List.count_eq_zero.mpr (allPlain_separator widths).lineBreak_not_mem
  have hfooter := breaksIn_eq_zero (allPlain_footerLines v t)
  rw [renderLines_false]
  simp only [Text.breaksIn_append, Text.breaksIn_cons, Text.breaksIn_nil, hheader, hrule, hfooter,
    breaksIn_bodyLines, Nat.zero_add, Nat.add_zero]
  rw [pageCells, hheading, lineBreaks]

/-- There is a line for each row, or a single one in place of the rows. -/
theorem length_bodyLines : (v.bodyLines t).length = max 1 v.pageRows.length := by
  rw [bodyLines]
  split
  · rename_i hnone
    rw [List.isEmpty_iff.mp hnone]
    rfl
  · rename_i hrows
    have hpos := List.length_pos_iff.mpr (List.isEmpty_iff.not.mp hrows)
    rw [List.length_map]
    omega

variable {v}

/-- A view at a page that exists says which rows it shows. -/
theorem length_showingLines (room : 1 ≤ v.pageSize) (first : 1 ≤ v.page)
    (last : v.page ≤ v.totalPages) : (v.showingLines t).length = 1 := by
  have shown := showingRange_goTo room first last
  rw [goTo_page first (by omega)] at shown
  rw [showingLines, shown]
  rfl

/-- There are two lines below the rows if there are other pages, and else none. -/
theorem length_footerLines (room : 1 ≤ v.pageSize) (first : 1 ≤ v.page)
    (last : v.page ≤ max 1 v.totalPages) :
    (v.footerLines t).length = if 1 < v.totalPages then 2 else 0 := by
  rw [footerLines]
  split
  · rw [List.length_append, length_showingLines t room first (by omega), List.length_singleton]
  · rfl

/-- The lines of a page of a view in range. -/
theorem length_renderLines (room : 1 ≤ v.pageSize) (first : 1 ≤ v.page)
    (last : v.page ≤ max 1 v.totalPages) :
    (v.renderLines t false).length =
      3 + max 1 v.pageRows.length + (if 1 < v.totalPages then 2 else 0) := by
  rw [renderLines_false, List.length_append, List.length_append, length_bodyLines,
    length_footerLines t room first last]
  rfl

end Page

/-- A table of one row, whose name has a line break followed by what looks like another row. -/
def brokenRow : ResultTable :=
  ⟨"a1", [(SortedMap.empty.insert "id" (.text "1")).insert "name" (.text "Ana\n2  | Bob")],
    ["id", "name"], 1⟩

end View

end CsvCleaning
