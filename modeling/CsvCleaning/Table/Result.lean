import CsvCleaning.Failure
import CsvCleaning.Service.Reply

/-!
# Result tables

The cleaned rows of a run with their columns in order. A table is refused if a column occurs twice
or a row has a cell outside the columns, so that every cell belongs to one column.
-/

namespace CsvCleaning

/-- A cleaned table. -/
structure ResultTable where
  fileId : String
  rows : List Row
  columns : List String
  totalRows : Nat
deriving DecidableEq

namespace ResultTable

/-- The first column that occurs earlier too. -/
def firstRepeated? : List String → List String → Option String
  | _, [] => none
  | seen, c :: rest => if c ∈ seen then some c else firstRepeated? (c :: seen) rest

/-- The first cell of a row that is outside the columns. -/
def strayKey? (columns : List String) (row : Row) : Option String :=
  row.keys.find? fun k => !(k ∈ columns)

/-- The first row, counted from `index`, with a cell outside the columns, and that cell. -/
def firstStray? (columns : List String) : Nat → List Row → Option (Nat × String)
  | _, [] => none
  | index, row :: rest =>
    match strayKey? columns row with
    | some k => some (index, k)
    | none => firstStray? columns (index + 1) rest

/-- Build a table of consistent parts. -/
def build (fileId : String) (rows : List Row) (columns : List String) (totalRows : Nat) :
    Except Failure ResultTable :=
  match firstRepeated? [] columns with
  | some c => .error (.malformedResponse ("duplicate column '" ++ c ++ "' in result"))
  | none =>
    match firstStray? columns 0 rows with
    | some (index, k) =>
      .error (.malformedResponse
        ("row " ++ toString index ++ " has column '" ++ k ++ "' missing from the column list"))
    | none => .ok ⟨fileId, rows, columns, totalRows⟩

/-- The table that a reply carries. -/
def ofReply (reply : ResultReply) : Except Failure ResultTable :=
  build reply.fileId reply.data reply.columns reply.rowsCount

/-- An accepted table has the parts it was built of. -/
theorem build_eq_ok {fileId : String} {rows : List Row} {columns : List String} {totalRows : Nat}
    {table : ResultTable} (h : build fileId rows columns totalRows = .ok table) :
    table = ⟨fileId, rows, columns, totalRows⟩ := by
  unfold build at h
  split at h
  · cases h
  · split at h
    · cases h
    · exact (Except.ok.inj h).symm

end ResultTable

end CsvCleaning
