import CsvCleaning.Failure
import CsvCleaning.Text.Split

/-!
# Complaints

A command that fails says what it could not do and names the causes, each the cause of the one
before. Several causes are numbered, and the lines of a cause are indented.
-/

namespace CsvCleaning

/-- What a failed command says. -/
structure Complaint where
  text : String
  causes : List String
deriving DecidableEq, Repr

/-- A failure with what lies behind it. -/
def Failure.causes : Failure → List String
  | f@(.io text) => [f.message, text]
  | f => [f.message]

namespace Complaint

/-- Complain about a failure itself. -/
def ofFailure (f : Failure) : Complaint :=
  ⟨f.message, f.causes.tail⟩

/-- Complain about what a failure kept from being done. -/
def because (text : String) (f : Failure) : Complaint :=
  ⟨text, f.causes⟩

/-- Write a cause: a first line with something in front, and the others indented. -/
def indented (front next : String) (cause : String) : String :=
  match (Text.splitWhere (· == '\n') cause.toList).map String.ofList with
  | [] => "\n" ++ front
  | first :: rest => "\n" ++ front ++ first ++ String.join (rest.map fun l => "\n" ++ next ++ l)

/-- The lines of the causes. -/
def causeLines : List String → List String
  | [cause] => [indented "    " "    " cause]
  | causes =>
    causes.zipIdx.map fun e =>
      let number := toString e.2
      let margin := String.ofList (List.replicate (5 - number.length) ' ')
      indented (margin ++ number ++ ": ") "       " e.1

/-- The text of a complaint. -/
def format (c : Complaint) : String :=
  "Error: " ++ c.text ++
    (if c.causes = [] then "" else "\n\nCaused by:" ++ String.join (causeLines c.causes)) ++ "\n"

end Complaint

end CsvCleaning
