import CsvCleaning.FileId
import CsvCleaning.Service.Reply

/-!
# The record of a run

Once a file is uploaded its run has a record: the file's id, the stage flags and what the stages
gave. Flags are only ever raised. `revision` counts the updates, so that an operation that leaves
it alone has not touched the record.
-/

namespace CsvCleaning

/-- What is known of an uploaded file. -/
structure Record where
  run : Nat
  fileId : String
  filename : String
  flags : Flags
  processedRowCount : Option Nat
  lastError : Option String
  script : Option String
  dataSummary : Option DataSummary
  revision : Nat
deriving DecidableEq

namespace Record

/-- The record of a file just uploaded. -/
def uploaded (run : Nat) (fileId filename : String) : Except Failure Record :=
  if Text.allBlank fileId then .error (.malformedResponse "upload returned an empty file_id")
  else
    .ok
      { run, fileId, filename
        flags := { Flags.none with uploaded := true }
        processedRowCount := none
        lastError := none
        script := none
        dataSummary := none
        revision := 0 }

/-- Count an update. -/
def touch (r : Record) : Record :=
  { r with revision := r.revision + 1 }

/-- Note that processing is complete. A script or profile that did not come leaves the old one. -/
def markProcessed (r : Record) (script : Option String) (summary : Option DataSummary) :
    Except Failure Record :=
  if r.flags.uploaded then
    .ok
      { r with
        flags := { r.flags with processed := true }
        script := script.or r.script
        dataSummary := summary.or r.dataSummary }.touch
  else .error (.invalidTransition "cannot mark processed before upload")

/-- Note that the script has been executed. -/
def markExecuted (r : Record) (rows : Nat) : Except Failure Record :=
  if r.flags.processed then
    .ok
      { r with
        flags := { r.flags with executed := true }
        processedRowCount := some rows }.touch
  else .error (.invalidTransition "cannot mark executed before llm processing")

/-- Note that the result is there. -/
def markReady (r : Record) : Except Failure Record :=
  if r.flags.executed then .ok { r with flags := { r.flags with ready := true } }.touch
  else .error (.invalidTransition "cannot mark ready before script execution")

/-- Note the message of a failed stage. -/
def setError (r : Record) (message : String) : Record :=
  { r with lastError := some message }.touch

/-- Forget the message of a failed stage. -/
def clearError (r : Record) : Record :=
  { r with lastError := none }

/-- Fold a status report in. A report for another file is ignored, and a record whose flags stay
as they are is not touched. -/
def mergeStatus (r : Record) (report : StatusReport) : Record :=
  if report.fileId = r.fileId then
    let flags := r.flags.merge report.flags
    if flags = r.flags then r else { r with flags }.touch
  else r

/-- Decide whether folding a report in changes the flags. -/
def changedBy (r : Record) (report : StatusReport) : Bool :=
  (r.mergeStatus report).flags != r.flags

/-- A report for another file changes nothing. -/
theorem mergeStatus_of_ne {r : Record} {report : StatusReport} (h : report.fileId ≠ r.fileId) :
    r.mergeStatus report = r := by
  simp [mergeStatus, h]

/-- A report for the file merges its flags. -/
theorem flags_mergeStatus {r : Record} {report : StatusReport} (h : report.fileId = r.fileId) :
    (r.mergeStatus report).flags = r.flags.merge report.flags := by
  unfold mergeStatus
  rw [if_pos h]
  dsimp only
  split
  · rename_i heq
    exact heq.symm
  · rfl

/-- Merging leaves the file's id alone. -/
theorem fileId_mergeStatus (r : Record) (report : StatusReport) :
    (r.mergeStatus report).fileId = r.fileId := by
  unfold mergeStatus
  dsimp only
  split
  · split <;> rfl
  · rfl

end Record

end CsvCleaning
