import CsvCleaning.Json.Printer

/-!
# Cells

A cell is a JSON value or missing. It has a text that a search looks at and one that is shown,
which is blank for a value that says nothing: missing, null, false, empty or zero. Both write a
number with its shortest digits and no exponent; arrays and objects are compact JSON text.
-/

namespace CsvCleaning.Cell

/-- The text in which a search term is looked for. -/
def searchText : Json → String
  | .text s => s
  | .null => "null"
  | .number n => n.write .plain
  | v@(.bool _) | v@(.array _) | v@(.object _) => v.print

/-- The text that is shown. -/
def displayText : Option Json → String
  | none => ""
  | some .null => ""
  | some (.bool false) => ""
  | some (.number n) => if n.isZero then "" else n.write .plain
  | some (.text s) => s
  | some v@(.bool true) | some v@(.array _) | some v@(.object _) => v.print

/-- Cut a text after `limit` characters, with three dots to show it. -/
def truncate (text : String) (limit : Nat) : String :=
  if text.toList.length ≤ limit then text
  else String.ofList (text.toList.take limit) ++ "..."

/-- The number of characters after which a shown cell is cut. -/
def displayLimit : Nat :=
  50

/-- The text of a cell in a table. -/
def shown (cell : Option Json) : String :=
  truncate (displayText cell) displayLimit

/-- A text within the limit is not cut. -/
theorem truncate_of_le {text : String} {limit : Nat} (h : text.toList.length ≤ limit) :
    truncate text limit = text := by
  simp [truncate, h]

/-- A cut text has three characters more than the limit. -/
theorem length_truncate_of_lt {text : String} {limit : Nat} (h : limit < text.toList.length) :
    (truncate text limit).toList.length = limit + 3 := by
  have hnot : ¬ text.toList.length ≤ limit := by omega
  simp only [truncate, hnot, if_false, String.toList_append, String.toList_ofList,
    List.length_append, List.length_take]
  have : "...".toList.length = 3 := by decide
  omega

end CsvCleaning.Cell
