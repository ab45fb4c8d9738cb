import CsvCleaning.Failure

/-!
# Names of files

A file is taken for CSV data if its name ends in `.csv`, in lower case. The extension of a name
starts at its last dot, unless that is the first character.
-/

namespace CsvCleaning.FileName

/-- The ending of CSV files. -/
def csvEnding : List Char :=
  ['.', 'c', 's', 'v']

/-- Decide whether a name ends in `.csv`. -/
def isCsv (name : String) : Bool :=
  csvEnding.isSuffixOf name.toList

/-- Refuse a name that does not end in `.csv`. -/
def checkCsv (name : String) : Except Failure Unit :=
  if isCsv name then .ok () else .error (.validation "wrong format")

/-- The part of a name from its last dot on, if something stands before the dot. -/
def extension? (name : String) : Option String :=
  let reversed := name.toList.reverse
  match reversed.dropWhile (· != '.') with
  | _ :: _ :: _ => some (String.ofList ('.' :: (reversed.takeWhile (· != '.')).reverse))
  | _ => none

/-- A name without a `.csv` at its end. -/
def stem (name : String) : String :=
  if isCsv name then String.ofList (name.toList.take (name.toList.length - csvEnding.length))
  else name

/-- The name under which the cleaned data of a file is saved. -/
def report (fileId ending : String) : String :=
  fileId ++ ending ++ ".csv"

/-- A name is taken for that of a CSV file if it ends in `.csv`. -/
theorem isCsv_iff {name : String} : isCsv name = true ↔ ".csv".toList <:+ name.toList :=
  List.isSuffixOf_iff_suffix

/-- A name is refused exactly when it does not end in `.csv`. -/
theorem checkCsv_eq_ok_iff {name : String} : checkCsv name = .ok () ↔ isCsv name = true := by
  unfold checkCsv
  split <;> simp_all

/-- The stem of any other name is the name. -/
theorem stem_of_not_isCsv {name : String} (h : isCsv name = false) : stem name = name := by
  simp [stem, h]

end CsvCleaning.FileName
