import CsvCleaning.Text.Split
import CsvCleaning.Url.Percent

/-!
# Form-encoded queries

A query is a list of names with values: an equals sign parts a name from its value, ampersands part
the pairs. In both, a space is written as a plus sign, letters, digits and `*-._` as they are, and
all else percent-encoded, so that no text can be taken for a separator.
-/

namespace CsvCleaning.Form

/-- The characters that stand in a query as they are. -/
def isKept (c : Char) : Bool :=
  c.isAlphanum || c == '*' || c == '-' || c == '.' || c == '_'

/-- Write one character of a name or value. -/
def encodeChar (c : Char) : List Char :=
  if c = ' ' then ['+'] else Percent.encode isKept [c]

/-- Write a name or value. -/
def encode (cs : List Char) : List Char :=
  cs.flatMap encodeChar

/-- Read a name or value as bytes: plus signs are spaces. -/
def decode (cs : List Char) : Bytes :=
  Percent.decode (cs.map fun c => if c = '+' then ' ' else c)

/-- Write a name with its value. -/
def writePair (name value : String) : List Char :=
  encode name.toList ++ '=' :: encode value.toList

/-- Put a pair at the end of a query. -/
def append (query : Option String) (name value : String) : String :=
  match query with
  | none => String.ofList (writePair name value)
  | some q => String.ofList
    (q.toList ++ (if q.toList = [] then [] else ['&']) ++ writePair name value)

/-- Read a name with its value; without an equals sign the value is empty. -/
def readPair (cs : List Char) : String × String :=
  let parts := Text.cutAt (· == '=') cs
  (Bytes.readUtf8Lossy (decode parts.1), Bytes.readUtf8Lossy (decode (parts.2.getD [])))

/-- Read the pairs of a query in order; empty stretches between ampersands are none. -/
def read (query : String) : List (String × String) :=
  ((Text.splitWhere (· == '&') query.toList).filter (· ≠ [])).map readPair

end CsvCleaning.Form
