import CsvCleaning.Number.Layout

/-!
# Durations in seconds

A duration is kept in milliseconds and written as a number of seconds: the whole seconds and the
rest, each rounded to binary64, are added and the sum is rounded again.
-/

namespace CsvCleaning.Seconds

/-- A duration of some milliseconds as a number of seconds. -/
def ofMillis? (millis : Nat) : Option Binary64 := do
  let whole ← Binary64.ofNat? (millis / 1000)
  let nanos ← Binary64.ofNat? (millis % 1000 * 1000000)
  let billion ← Binary64.ofNat? 1000000000
  let rest ← nanos.div? billion
  whole.addMagnitudes? rest

/-- The text of a duration of some milliseconds. -/
def format (millis : Nat) : String :=
  match ofMillis? millis with
  | some x => NumberLayout.plain.write x
  | none => toString (millis / 1000)

end CsvCleaning.Seconds
