import CsvCleaning.Json.Value
import CsvCleaning.Number.Layout
import CsvCleaning.Text.Digits

/-!
# Compact JSON text

No blanks, members in order, and in a text only the quote, the backslash and the control
characters below the space are escaped.
-/

namespace CsvCleaning

namespace Json

/-- Write one character of a text. -/
def escapeChar (c : Char) : List Char :=
  if c = '\"' then ['\\', '\"']
  else if c = '\\' then ['\\', '\\']
  else if c.toNat = 8 then ['\\', 'b']
  else if c.toNat = 12 then ['\\', 'f']
  else if c = '\n' then ['\\', 'n']
  else if c = '\r' then ['\\', 'r']
  else if c = '\t' then ['\\', 't']
  else if c.toNat < 0x20 then
    ['\\', 'u', '0', '0', Digits.lower (c.toNat / 16), Digits.lower (c.toNat % 16)]
  else [c]

/-- Write a text in quotes. -/
def quote (s : String) : String :=
  String.ofList ('\"' :: (s.toList.flatMap escapeChar ++ ['\"']))

end Json

namespace JsonNumber

/-- Write a number with a layout for those that are not whole. -/
def write (layout : NumberLayout) : JsonNumber → String
  | int n => toString n
  | real x => layout.write x

end JsonNumber

namespace Json

mutual

/-- Write a value. -/
def print : Json → String
  | null => "null"
  | bool true => "true"
  | bool false => "false"
  | number n => n.write .compact
  | text s => quote s
  | array items => "[" ++ printItems items ++ "]"
  | object members => "\x7b" ++ printMembers members ++ "\x7d"

/-- Write the items of an array with commas between them. -/
def printItems : List Json → String
  | [] => ""
  | [x] => print x
  | x :: y :: rest => print x ++ "," ++ printItems (y :: rest)

/-- Write the members of an object with commas between them. -/
def printMembers : List (String × Json) → String
  | [] => ""
  | [(k, x)] => quote k ++ ":" ++ print x
  | (k, x) :: e :: rest => quote k ++ ":" ++ print x ++ "," ++ printMembers (e :: rest)

end

end Json

end CsvCleaning
