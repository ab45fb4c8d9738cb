import CsvCleaning.FileId
import CsvCleaning.Run.Stage
import CsvCleaning.Service.Call
import CsvCleaning.Table.Cell

/-!
# A service for rehearsals

A stand-in for the service that knows one file. It follows the stages of that file, makes up a
table of a chosen shape, and fails where it is told to.
-/

namespace CsvCleaning

/-- The state of a rehearsal. -/
structure Mock where
  fileId : String
  rows : Nat
  columns : Nat
  delay : Nat
  staleStatus : Bool
  failures : Stage → Option Failure
  statusFailure : Option Failure
  progress : Flags
  calls : List String

namespace Mock

/-- A rehearsal for a file, with a table of 42 rows and 5 columns. -/
def ofFileId (fileId : String) : Mock :=
  { fileId
    rows := 42
    columns := 5
    delay := 0
    staleStatus := false
    failures := fun _ => none
    statusFailure := none
    progress := .none
    calls := [] }

/-- Choose the shape of the table; it has a column at least. -/
def withShape (m : Mock) (rows columns : Nat) : Mock :=
  { m with rows, columns := max columns 1 }

/-- Let a stage fail from now on, or no longer. -/
def setFailure (m : Mock) (stage : Stage) (failure : Option Failure) : Mock :=
  { m with failures := fun s => if s = stage then failure else m.failures s }

/-- The number of calls of a name so far. -/
def callCount (m : Mock) (name : String) : Nat :=
  m.calls.countP (· == name)

/-- The name of a column by its place. -/
def columnName (j : Nat) : String :=
  if j = 0 then "id" else "column_" ++ toString j

/-- The names of the columns. -/
def columnNames (m : Mock) : List String :=
  (List.range m.columns).map columnName

/-- The cell in a row and column: the number of the row in the first column, elsewhere a text. -/
def cell (i j : Nat) : Json :=
  if j = 0 then .count i else .text ("r" ++ toString i ++ "c" ++ toString j)

/-- A row by its number, counted from one. -/
def row (columns i : Nat) : Row :=
  .ofList ((List.range columns).map fun j => (columnName j, cell i j))

/-- The rows of the table. -/
def tableRows (m : Mock) : List Row :=
  (List.range m.rows).map fun i => row m.columns (i + 1)

/-- The script that is made up. -/
def script : String :=
  "import pandas as pd\ndf = df.drop_duplicates()\n"

/-- The profile that is made up. -/
def summary (m : Mock) (fileId : String) : DataSummary :=
  { filename := fileId ++ ".csv"
    rowsCount := m.rows
    columnsCount := m.columnNames.length
    columns := m.columnNames
    dataTypes := .empty
    missingValues := .empty
    sampleRows := []
    duplicateRows := 0
    memoryUsage := "" }

/-- A line of the table's CSV form. -/
def csvLine (cells : List String) : String :=
  ",".intercalate cells ++ "\n"

/-- The table in CSV form: the column names, then each row in column order. -/
def csv (m : Mock) : String :=
  csvLine m.columnNames ++
    String.join (m.tableRows.map fun r => csvLine (m.columnNames.map fun c =>
      ((r.get? c).map Cell.searchText).getD ""))

/-- Refuse a file id that is blank, or not of the file, or whose file is not uploaded yet. -/
def checkKnown (m : Mock) (fileId : String) : Except Failure Unit :=
  match FileId.check fileId with
  | .error f => .error f
  | .ok () =>
    if fileId = m.fileId ∧ m.progress.uploaded then .ok ()
    else .error (.server 404 ("File " ++ fileId ++ " not found"))

/-- Raise a flag of the progress. -/
def advance (m : Mock) (raise : Flags → Flags) : Mock :=
  { m with progress := raise m.progress }

/-- Answer a call that is not told to fail. -/
def perform (m : Mock) : (c : Call) → CsvCleaning.Answer c × Mock
  | .health => (.ok ⟨"mock backend is running"⟩, m)
  | .upload file =>
    (.ok ⟨file.name, true, "FILE WAS UPLOADED SUCCESSFULLY", m.fileId⟩,
      m.advance fun p => { p with uploaded := true })
  | .process fileId =>
    match m.checkKnown fileId with
    | .error f => (.error f, m)
    | .ok () =>
      (.ok ⟨fileId, "cleaning script generated", some script, some (m.summary fileId)⟩,
        m.advance fun p => { p with processed := true })
  | .execute fileId =>
    match m.checkKnown fileId with
    | .error f => (.error f, m)
    | .ok () =>
      if m.progress.processed then
        (.ok ⟨"script executed", m.rows⟩, m.advance fun p => { p with executed := true })
      else (.error (.server 400 "script not generated yet"), m)
  | .status fileId =>
    match m.statusFailure with
    | some f => (.error f, m)
    | none =>
      match m.checkKnown fileId with
      | .error f => (.error f, m)
      | .ok () => (.ok ⟨fileId, if m.staleStatus then .none else m.progress⟩, m)
  | .result fileId =>
    match m.checkKnown fileId with
    | .error f => (.error f, m)
    | .ok () =>
      if m.progress.executed then
        (ResultTable.build fileId m.tableRows m.columnNames m.rows,
          m.advance fun p => { p with ready := true })
      else (.error (.server 404 "result not ready"), m)
  | .script fileId =>
    match m.checkKnown fileId with
    | .error f => (.error f, m)
    | .ok () => (.ok script, m)
  | .download fileId =>
    match m.checkKnown fileId with
    | .error f => (.error f, m)
    | .ok () => (.ok (Bytes.utf8 m.csv), m)

/-- The stage that a call carries out, if any. -/
def stageOf? : Call → Option Stage
  | .upload _ => some .upload
  | .process _ => some .process
  | .execute _ => some .execute
  | .result _ => some .result
  | .health | .status _ | .script _ | .download _ => none

/-- Answer a call whose time has come. -/
def answer (c : Call) (m : Mock) : CsvCleaning.Answer c × Mock :=
  match (stageOf? c).bind m.failures with
  | some f => (.error f, m)
  | none => m.perform c

/-- Note a call. -/
def log (m : Mock) (c : Call) : Mock :=
  { m with calls := m.calls ++ [c.name] }

/-- The rehearsal as a service: every call is noted when it comes and answered after the delay. -/
def service : Service Mock where
  receive c m :=
    let m := m.log c
    if m.delay = 0 then
      let (a, m) := answer c m
      (.now a, m)
    else (.later m.delay, m)
  wake := answer

/-- The rehearsal with its delays waited out. -/
def gateway : Gateway Mock :=
  service.gateway

/-- A table has a column at least. -/
theorem one_le_columns_withShape (m : Mock) (rows columns : Nat) :
    1 ≤ (m.withShape rows columns).columns :=
  Nat.le_max_right ..

end Mock

end CsvCleaning
