import CsvCleaning.Failure
import CsvCleaning.Text.Blank

/-!
# File ids

The service names each uploaded file. Any text will do that is not blank.
-/

namespace CsvCleaning.FileId

/-- Refuse a blank file id before anything is sent. -/
def check (fileId : String) : Except Failure Unit :=
  if Text.allBlank fileId then .error (.validation "missing file id") else .ok ()

/-- A file id is accepted exactly when it is not blank. -/
theorem check_eq_ok_iff {fileId : String} : check fileId = .ok () ↔ Text.allBlank fileId = false := by
  unfold check
  split <;> simp_all

end CsvCleaning.FileId
