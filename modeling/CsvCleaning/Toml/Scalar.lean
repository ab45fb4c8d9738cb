import CsvCleaning.Settings.RawValue
import CsvCleaning.Text.Split

/-!
# Words, numbers and dates

A value without quotes is a token: `true` or `false`, a whole number in one of four bases, a real
number, or a date, a time or both. Underscores may stand between the digits of a number. Dates and
times are kept as texts in one form.
-/

namespace CsvCleaning.Toml

/-- Remove the underscores from digits of a base, each of which has to stand between two digits. -/
def plainDigits? (base : Nat) (cs : List Char) : Option (List Char) :=
  let groups := Text.splitWhere (· == '_') cs
  if groups.all fun group => group ≠ [] ∧ (Digits.number? base group).isSome then some groups.flatten
  else none

/-- The digits of a decimal number, which has no needless zero in front. -/
def decimalDigits? (cs : List Char) : Option (List Char) :=
  match plainDigits? 10 cs with
  | some ('0' :: _ :: _) => none
  | digits => digits

/-- A whole number of 64 bits with a sign. -/
def wordOf? (n : Int) : Option RawValue :=
  if RawValue.wordLimits.1 ≤ n ∧ n ≤ RawValue.wordLimits.2 then some (.int n) else none

/-- The whole number that a token writes. -/
def whole? (token : List Char) : Option RawValue :=
  let inBase := fun (base : Nat) (digits : List Char) =>
    (plainDigits? base digits).bind fun ds => (Digits.number? base ds).bind fun n => wordOf? n
  match token with
  | '0' :: 'x' :: digits => inBase 16 digits
  | '0' :: 'o' :: digits => inBase 8 digits
  | '0' :: 'b' :: digits => inBase 2 digits
  | _ => do
    let (negative, digits) := cutSign token
    let n ← Digits.number? 10 (← decimalDigits? digits)
    wordOf? (if negative then -n else n)

/-- The real number that a token writes: digits with a fraction, an exponent or both. -/
def real? (token : List Char) : Option RawValue := do
  let (negative, cs) := cutSign token
  if cs = "inf".toList then return .real (.infinite negative)
  if cs = "nan".toList then return .real .undefined
  let (mantissa, exponent) := Text.cutAt (fun c => c == 'e' || c == 'E') cs
  let (whole, fraction) := Text.cutAt (· == '.') mantissa
  let digits ← decimalDigits? whole
  let places ← match fraction with
    | some f => plainDigits? 10 f
    | none => if exponent.isSome then some [] else none
  let power ← match exponent with
    | some e => do
      let (down, ds) := cutSign e
      let n ← Digits.number? 10 (← plainDigits? 10 ds)
      some (if down then -(n : Int) else n)
    | none => some 0
  match Extended.ofDigits negative (digits ++ places) (power - places.length) with
  | .infinite _ => none
  | x => return .real x

/-- The number that two digits write, if it is not above a limit. -/
def pair? (limit : Nat) (a b : Char) : Option Nat :=
  match Digits.number? 10 [a, b] with
  | some n => if n ≤ limit then some n else none
  | none => none

/-- The number of days in a month. -/
def daysIn (year month : Nat) : Nat :=
  if month = 2 then
    if year % 4 = 0 ∧ (year % 100 ≠ 0 ∨ year % 400 = 0) then 29 else 28
  else if month = 4 ∨ month = 6 ∨ month = 9 ∨ month = 11 then 30
  else 31

/-- Decide whether characters write a day of the calendar. -/
def isDate : List Char → Bool
  | [y1, y2, y3, y4, '-', m1, m2, '-', d1, d2] =>
    match Digits.number? 10 [y1, y2, y3, y4], pair? 12 m1 m2, pair? 31 d1 d2 with
    | some year, some month, some day => 1 ≤ month && 1 ≤ day && day ≤ daysIn year month
    | _, _, _ => false
  | _ => false

/-- Cut at the offset from universal time. -/
def cutOffset (cs : List Char) : List Char × List Char :=
  let isMark := fun c : Char => c == 'Z' || c == 'z' || c == '+' || c == '-'
  (cs.takeWhile (!isMark ·), cs.dropWhile (!isMark ·))

/-- An offset in its one form; no offset is none. -/
def offset? : List Char → Option (List Char)
  | [] => some []
  | ['Z'] | ['z'] => some ['Z']
  | [sign, h1, h2, ':', m1, m2] =>
    if (pair? 23 h1 h2).isSome ∧ (pair? 59 m1 m2).isSome then some [sign, h1, h2, ':', m1, m2]
    else none
  | _ => none

/-- A fraction of a second in its one form: nine places at most, no zeros at the end. -/
def fraction? (digits : List Char) : Option (List Char) :=
  if digits ≠ [] ∧ digits.all Char.isDigit then
    let kept := ((digits.take 9).reverse.dropWhile (· == '0')).reverse
    some ('.' :: (if kept = [] then ['0'] else kept))
  else none

/-- A time of day in its one form. -/
def time? : List Char → Option (List Char)
  | h1 :: h2 :: ':' :: m1 :: m2 :: rest =>
    if (pair? 23 h1 h2).isSome ∧ (pair? 59 m1 m2).isSome then
      match rest with
      | [] => some [h1, h2, ':', m1, m2]
      | [':', s1, s2] =>
        if (pair? 60 s1 s2).isSome then some [h1, h2, ':', m1, m2, ':', s1, s2] else none
      | ':' :: s1 :: s2 :: '.' :: digits =>
        if (pair? 60 s1 s2).isSome then
          (fraction? digits).map ([h1, h2, ':', m1, m2, ':', s1, s2] ++ ·)
        else none
      | _ => none
    else none
  | _ => none

/-- The date, the time or both that a token writes, in one form. -/
def dateTime? (token : List Char) : Option RawValue :=
  let asText := fun cs : List Char => RawValue.text (String.ofList cs)
  if isDate (token.take 10) then
    match token.drop 10 with
    | [] => some (asText token)
    | mark :: rest =>
      if mark = 'T' ∨ mark = 't' ∨ mark = ' ' then do
        let (clock, zone) := cutOffset rest
        return asText (token.take 10 ++ 'T' :: (← time? clock) ++ (← offset? zone))
      else none
  else (time? token).map asText

/-- The value that a token writes. -/
def scalar? (token : List Char) : Option RawValue :=
  if token = "true".toList then some (.bool true)
  else if token = "false".toList then some (.bool false)
  else whole? token <|> real? token <|> dateTime? token

/-- Decide whether a character may stand in a token. -/
def isTokenChar (c : Char) : Bool :=
  c.isAlphanum || c == '+' || c == '-' || c == '_' || c == '.' || c == ':'

/-- Cut a token off the front. A time may follow a date after a space. -/
def cutToken (cs : List Char) : List Char × List Char :=
  let token := cs.takeWhile isTokenChar
  match cs.dropWhile isTokenChar with
  | ' ' :: d :: rest =>
    if isDate token ∧ d.isDigit then
      (token ++ ' ' :: (d :: rest).takeWhile isTokenChar, (d :: rest).dropWhile isTokenChar)
    else (token, ' ' :: d :: rest)
  | rest => (token, rest)

end CsvCleaning.Toml
