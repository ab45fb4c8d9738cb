import CsvCleaning.Text.Digits

/-!
# Quoted texts

A text stands in double quotes, where a backslash escapes, or in single quotes, where nothing does.
Three quotes of a kind hold a text of several lines, whose first line break is left out; there a
backslash at the end of a line also takes away the break and all white space after it. Line breaks
are single line feeds here.
-/

namespace CsvCleaning.Toml

/-- Decide whether a character may stand in a text or a comment of one line. -/
def isTextChar (c : Char) : Bool :=
  c == '\t' || (0x20 ≤ c.toNat && c.toNat != 0x7F)

/-- Decide whether a character is white space within a line. -/
def isSpace (c : Char) : Bool :=
  c == ' ' || c == '\t'

/-- The character that hexadecimal digits write. -/
def codeChar? (digits : List Char) : Option Char :=
  match Digits.number? 16 digits with
  | some n => if n.isValidChar then some (Char.ofNat n) else none
  | none => none

/-- The character that an escape stands for, and what follows it. -/
def escape? : List Char → Option (Char × List Char)
  | 'b' :: rest => some (Char.ofNat 8, rest)
  | 't' :: rest => some ('\t', rest)
  | 'n' :: rest => some ('\n', rest)
  | 'f' :: rest => some (Char.ofNat 12, rest)
  | 'r' :: rest => some ('\r', rest)
  | 'e' :: rest => some (Char.ofNat 27, rest)
  | '\"' :: rest => some ('\"', rest)
  | '\\' :: rest => some ('\\', rest)
  | 'x' :: a :: b :: rest => (codeChar? [a, b]).map (·, rest)
  | 'u' :: a :: b :: c :: d :: rest => (codeChar? [a, b, c, d]).map (·, rest)
  | 'U' :: a :: b :: c :: d :: e :: f :: g :: h :: rest =>
    (codeChar? [a, b, c, d, e, f, g, h]).map (·, rest)
  | _ => none

/-- Read a text of one line up to its double quote, in at most `fuel` characters. -/
def basicFrom : Nat → List Char → Option (List Char × List Char)
  | 0, _ | _, [] => none
  | fuel + 1, c :: rest =>
    if c = '\"' then some ([], rest)
    else do
      let (c, rest) ← if c = '\\' then escape? rest else if isTextChar c then some (c, rest) else none
      let (cs, rest) ← basicFrom fuel rest
      return (c :: cs, rest)

/-- Read a text of one line up to its single quote. -/
def literalFrom (cs : List Char) : Option (List Char × List Char) :=
  let text := cs.takeWhile (· != '\'')
  match cs.dropWhile (· != '\'') with
  | _ :: rest => if text.all isTextChar then some (text, rest) else none
  | [] => none

/-- The quotes, two at most, that belong to a text although its closing quotes come before them. -/
def extraQuotes (quote : Char) (cs : List Char) : List Char × List Char :=
  match cs with
  | a :: b :: rest =>
    if a = quote then if b = quote then ([a, b], rest) else ([a], b :: rest) else ([], cs)
  | [a] => if a = quote then ([a], []) else ([], cs)
  | [] => ([], [])

/-- Read a text of several lines up to its three double quotes. -/
def longBasicFrom : Nat → List Char → Option (List Char × List Char)
  | 0, _ | _, [] => none
  | _ + 1, '\"' :: '\"' :: '\"' :: rest => some (extraQuotes '\"' rest)
  | fuel + 1, c :: rest =>
    if c = '\\' ∧ (rest.dropWhile isSpace).head? = some '\n' then
      longBasicFrom fuel (rest.dropWhile fun c => isSpace c || c == '\n')
    else do
      let (c, rest) ←
        if c = '\\' then escape? rest
        else if isTextChar c ∨ c = '\n' then some (c, rest) else none
      let (cs, rest) ← longBasicFrom fuel rest
      return (c :: cs, rest)

/-- Read a text of several lines up to its three single quotes. -/
def longLiteralFrom : List Char → Option (List Char × List Char)
  | [] => none
  | '\'' :: '\'' :: '\'' :: rest => some (extraQuotes '\'' rest)
  | c :: rest =>
    if isTextChar c ∨ c = '\n' then (longLiteralFrom rest).map fun r => (c :: r.1, r.2) else none

/-- Leave out a line break at the front. -/
def withoutFirstBreak : List Char → List Char
  | '\n' :: rest => rest
  | cs => cs

/-- Read a text of one line from its opening quote. -/
def shortText? : List Char → Option (String × List Char)
  | '\"' :: rest => (basicFrom rest.length rest).map fun r => (String.ofList r.1, r.2)
  | '\'' :: rest => (literalFrom rest).map fun r => (String.ofList r.1, r.2)
  | _ => none

/-- Read a text of any kind from its opening quotes. -/
def text? : List Char → Option (String × List Char)
  | '\"' :: '\"' :: '\"' :: rest =>
    (longBasicFrom rest.length (withoutFirstBreak rest)).map fun r => (String.ofList r.1, r.2)
  | '\'' :: '\'' :: '\'' :: rest =>
    (longLiteralFrom (withoutFirstBreak rest)).map fun r => (String.ofList r.1, r.2)
  | cs => shortText? cs

end CsvCleaning.Toml
