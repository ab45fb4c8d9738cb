import CsvCleaning.ByteSize
import CsvCleaning.Files.SourceFile
import CsvCleaning.Notice

/-!
# Selecting a file

The selection holds at most one file. A candidate is accepted if it is named like a CSV file and
is not too large; a rejected one leaves the held file as it was.
-/

namespace CsvCleaning

/-- A selection and the largest size it accepts, zero standing for no limit. -/
structure Selection where
  held : Option SourceFile
  limit : Nat
deriving DecidableEq, Repr

/-- Why a candidate is rejected. -/
inductive Rejection where
  | noFile
  | wrongFormat
  | tooLarge
deriving DecidableEq, Repr

/-- What became of a candidate. -/
inductive SelectionOutcome where
  | accepted (file : SourceFile)
  | cleared
  | rejected (reason : Rejection)
deriving DecidableEq, Repr

/-- The text of a rejection. -/
def Rejection.text : Rejection → String
  | noFile => "no file supplied"
  | wrongFormat => "wrong format"
  | tooLarge => "file too large"

namespace Selection

/-- A selection that holds nothing. -/
def empty (limit : Nat) : Selection :=
  ⟨none, limit⟩

/-- Offer a candidate, or none to clear the selection. -/
def select (s : Selection) : Option SourceFile → Selection × SelectionOutcome
  | none =>
    match s.held with
    | some _ => ({ s with held := none }, .cleared)
    | none => (s, .rejected .noFile)
  | some file =>
    if !FileName.isCsv file.name then (s, .rejected .wrongFormat)
    else if 0 < s.limit ∧ s.limit < file.size then (s, .rejected .tooLarge)
    else ({ s with held := some file }, .accepted file)

/-- Let go of the held file. -/
def reset (s : Selection) : Selection :=
  { s with held := none }

/-- Selecting never changes the limit. -/
theorem limit_select (s : Selection) (candidate : Option SourceFile) :
    (s.select candidate).1.limit = s.limit := by
  unfold select
  split
  · split <;> rfl
  · split
    · rfl
    · split <;> rfl

end Selection

/-- What the user is told about an outcome. -/
def SelectionOutcome.notice : SelectionOutcome → Notice
  | accepted file => ⟨.success, "file " ++ FileName.stem file.name ++ " was loaded!"⟩
  | cleared => ⟨.info, "file removed"⟩
  | rejected .noFile => ⟨.warning, "Please select a file first."⟩
  | rejected reason => ⟨.error, "File rejected: " ++ reason.text⟩

end CsvCleaning
