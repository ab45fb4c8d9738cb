/-!
# Dates

Instants are counted in seconds from the first of January 1970. The calendar is the Gregorian one
carried on in both directions; the year before year one is year zero.
-/

namespace CsvCleaning.Calendar

/-- A day of the calendar. -/
structure Date where
  year : Int
  month : Nat
  day : Nat
deriving DecidableEq, Repr

/-- The day that comes a number of days after the first of January 1970. Years are counted from
March and in cycles of 400, so that leap days come last. -/
def ofDays (days : Int) : Date :=
  let shifted := days + 719468
  let era := shifted.fdiv 146097
  let dayOfEra := (shifted.fmod 146097).toNat
  let yearOfEra := (dayOfEra - dayOfEra / 1460 + dayOfEra / 36524 - dayOfEra / 146096) / 365
  let dayOfYear := dayOfEra - (365 * yearOfEra + yearOfEra / 4 - yearOfEra / 100)
  let monthFromMarch := (5 * dayOfYear + 2) / 153
  let day := dayOfYear - (153 * monthFromMarch + 2) / 5 + 1
  let month := if monthFromMarch < 10 then monthFromMarch + 3 else monthFromMarch - 9
  ⟨era * 400 + yearOfEra + (if month ≤ 2 then 1 else 0), month, day⟩

/-- Write a number with at least `width` digits. -/
def padded (width n : Nat) : String :=
  let digits := Nat.toDigits 10 n
  String.ofList (List.replicate (width - digits.length) '0' ++ digits)

/-- Write a year: four digits at least, with a sign when it is not in `0..9999`. -/
def yearText (year : Int) : String :=
  if year < 0 then "-" ++ padded 4 year.natAbs
  else if 9999 < year then "+" ++ padded 4 year.natAbs
  else padded 4 year.natAbs

/-- The least and the greatest year that can be shown. -/
def yearLimits : Int × Int :=
  (-262143, 262142)

/-- Write an instant to the second; one whose year is out of range is unknown. -/
def format (seconds : Int) : String :=
  let date := ofDays (seconds.fdiv 86400)
  let ofDay := (seconds.fmod 86400).toNat
  if date.year < yearLimits.1 ∨ yearLimits.2 < date.year then "unknown"
  else
    yearText date.year ++ "-" ++ padded 2 date.month ++ "-" ++ padded 2 date.day ++ " " ++
      padded 2 (ofDay / 3600) ++ ":" ++ padded 2 (ofDay / 60 % 60) ++ ":" ++
      padded 2 (ofDay % 60) ++ " UTC"

/-- The count of days begins on the first of January 1970. -/
theorem ofDays_zero : ofDays 0 = ⟨1970, 1, 1⟩ := by decide

end CsvCleaning.Calendar
