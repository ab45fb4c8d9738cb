/-!
# Failures

Every operation fails in one of seven ways. A failure has a full text for logs and diagnostics and
a message for the user, which leaves out the kind where the rest says enough.
-/

namespace CsvCleaning

/-- What went wrong. -/
inductive Failure where
  /-- The settings cannot be used. -/
  | config (text : String)
  /-- A local check refused the request before anything was sent. -/
  | validation (text : String)
  /-- No answer came back. -/
  | transport (text : String)
  /-- The service answered with an error status. -/
  | server (status : Nat) (detail : String)
  /-- The service answered with a body that does not fit. -/
  | malformedResponse (text : String)
  /-- A step was asked for out of order. -/
  | invalidTransition (text : String)
  /-- A file could not be read or written. -/
  | io (text : String)
deriving DecidableEq, Repr

namespace Failure

/-- The detail shown when an error answer carries none of its own. -/
def fallbackDetail : String :=
  "Internal server Error"

/-- The full text of a failure. -/
def message : Failure → String
  | config text => "Configuration error: " ++ text
  | validation text => "Validation error: " ++ text
  | transport text => "Transport error: " ++ text
  | server status detail => "Server error (" ++ toString status ++ "): " ++ detail
  | malformedResponse text => "Malformed response: " ++ text
  | invalidTransition text => "Invalid transition: " ++ text
  | io text => "IO error: " ++ text

/-- The text shown to the user when a failure ends a stage. -/
def userMessage : Failure → String
  | server _ detail => detail
  | transport text | validation text | malformedResponse text => text
  | f@(config _) | f@(invalidTransition _) | f@(io _) => f.message

/-- The user sees the detail of a service error as it came. -/
theorem userMessage_server (status : Nat) (detail : String) :
    (server status detail).userMessage = detail := rfl

/-- Two computations in a row succeed exactly when the first does and the second does on its
value. -/
theorem bind_eq_ok_iff {α β : Type} {x : Except Failure α} {f : α → Except Failure β} {b : β} :
    (x >>= f) = .ok b ↔ ∃ a, x = .ok a ∧ f a = .ok b := by
  cases x with
  | error e => simp [bind, Except.bind]
  | ok a => simp [bind, Except.bind]

end Failure

end CsvCleaning
