import CsvCleaning.Number.Extended
import CsvCleaning.Text.LowerCase

/-!
# Values of settings as they are written

A file or a variable gives a setting as a value of some kind. The setting takes it if it converts
to what the setting holds: a text, a count of 64 bits, or a yes or no.
-/

namespace CsvCleaning

/-- A value as it is written. What a table holds is said of the places below it. -/
inductive RawValue where
  | nothing
  | bool (b : Bool)
  | int (n : Int)
  | real (x : Extended)
  | text (s : String)
  | list (items : List RawValue)
  | table
deriving Repr

namespace RawValue

/-- Decide whether a value is a table. -/
def isTable : RawValue → Bool
  | table => true
  | nothing | bool _ | int _ | real _ | text _ | list _ => false

/-- The words that mean yes and those that mean no. -/
def word? (s : String) : Option Bool :=
  let lowered := String.ofList (Text.lower s.toList)
  if lowered ∈ ["true", "on", "yes"] then some true
  else if lowered ∈ ["false", "off", "no"] then some false
  else none

/-- The count that a text writes in digits, perhaps after a plus sign. -/
def writtenCount? (s : String) : Option Nat :=
  if s.toList.head? = some '-' then none
  else (wholeNumber? 0 Extended.maxCount s.toList).map Int.toNat

/-- A value as a text. -/
def toText? : RawValue → Option String
  | bool b => some (if b then "true" else "false")
  | int n => some (toString n)
  | real x => some x.write
  | text s => some s
  | nothing | list _ | table => none

/-- A value as a count. -/
def toCount? : RawValue → Option Nat
  | bool b => some (if b then 1 else 0)
  | int n => if n < 0 then none else some n.toNat
  | real x => some x.count
  | text s =>
    match word? s with
    | some b => some (if b then 1 else 0)
    | none => writtenCount? s
  | nothing | list _ | table => none

/-- A value as a yes or no. -/
def toBool? : RawValue → Option Bool
  | bool b => some b
  | int n => some (n != 0)
  | real x => some x.isNonzero
  | text s => if s = "1" then some true else if s = "0" then some false else word? s
  | nothing | list _ | table => none

/-- The digits at the front, and the rest. -/
def spanDigits (cs : List Char) : List Char × List Char :=
  (cs.takeWhile Char.isDigit, cs.dropWhile Char.isDigit)

/-- The exponent that follows a significand, if all that is left is one. -/
def exponent? : List Char → Option Int
  | [] => some 0
  | c :: rest =>
    if c = 'e' ∨ c = 'E' then
      let (negative, digits) := cutSign rest
      if digits = [] then none
      else (Digits.number? 10 digits).map fun n => if negative then -n else n
    else none

/-- The real number that characters write: digits with or without a point among, before or after
them, and perhaps an exponent; or an infinity or the value that is not a number, in any case. -/
def real? (cs : List Char) : Option Extended :=
  let (negative, cs) := cutSign cs
  let name := String.ofList (cs.map Char.toLower)
  if name = "inf" ∨ name = "infinity" then some (.infinite negative)
  else if name = "nan" then some .undefined
  else
    let (whole, rest) := spanDigits cs
    let (fraction, rest) := match rest with
      | '.' :: after => spanDigits after
      | _ => ([], rest)
    if whole = [] ∧ fraction = [] then none
    else (exponent? rest).map fun e =>
      Extended.ofDigits negative (whole ++ fraction) (e - fraction.length)

/-- The least and the greatest whole number of 64 bits with a sign. -/
def wordLimits : Int × Int :=
  (-(Nat.pow 2 63 : Int), (Nat.pow 2 63 : Int) - 1)

/-- The value that a variable's text writes: the words true and false in any case, a whole number,
a real number, or else the text itself. -/
def ofVariable (s : String) : RawValue :=
  let lowered := String.ofList (Text.lower s.toList)
  if lowered = "true" then bool true
  else if lowered = "false" then bool false
  else
    match wholeNumber? wordLimits.1 wordLimits.2 s.toList with
    | some n => int n
    | none =>
      match real? s.toList with
      | some x => real x
      | none => text s

end RawValue

end CsvCleaning
