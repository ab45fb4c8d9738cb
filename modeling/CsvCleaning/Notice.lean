import CsvCleaning.Text.Style

/-!
# Notices to the user
-/

namespace CsvCleaning

/-- How much a notice matters. -/
inductive Level where
  | success
  | info
  | warning
  | error
deriving DecidableEq, Repr

/-- A message to the user. -/
structure Notice where
  level : Level
  message : String
deriving DecidableEq, Repr

namespace Level

/-- The mark in front of a notice. -/
def mark : Level → String
  | success => "✓"
  | info => "ℹ"
  | warning => "⚠"
  | error => "✗"

/-- The colour of a level. -/
def code : Level → Text.Code
  | success => .green
  | info => .blue
  | warning => .yellow
  | error => .red

/-- Lay out a message: the mark in bold colour, then the message in the same colour, save that
information is left uncoloured. -/
def format (level : Level) (color : Bool) (message : String) : String :=
  let body := match level with
    | info => message
    | success | warning | error => Text.style color [level.code] message
  Text.style color [.bold, level.code] level.mark ++ " " ++ body

end Level

/-- Lay out a notice. -/
def Notice.format (notice : Notice) (color : Bool) : String :=
  notice.level.format color notice.message

/-- Without colour a notice is its mark and its message. -/
theorem Notice.format_plain (notice : Notice) :
    notice.format false = notice.level.mark ++ " " ++ notice.message := by
  cases notice with
  | mk level message => cases level <;> simp [format, Level.format, Text.style]

end CsvCleaning
