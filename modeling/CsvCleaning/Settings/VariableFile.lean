import CsvCleaning.Settings.Variables
import CsvCleaning.Text.Blank
import CsvCleaning.Text.Bytes

/-!
# Files of variables

A file of variables has an entry `NAME=value` a line, perhaps with `export` in front. A value may be
quoted, and its quotes may go on over line breaks; single quotes keep all as it is, elsewhere a
backslash escapes and a dollar sign stands before the name of a variable whose value is put in. A
number sign after white space begins a comment. Reading ends at the first line that is not
understood, and what was read before it counts.
-/

namespace CsvCleaning.VariableFile

/-- How far a line is quoted when its end is looked for. -/
inductive Quoting where
  | complete
  | blank
  | escape
  | single
  | singleEscape
  | double
  | doubleEscape
deriving DecidableEq, Repr

/-- The quoting after a character, or none if the character begins a comment. -/
def Quoting.after : Quoting → Char → Option Quoting
  | complete, c =>
    if c = '\\' then some escape
    else if c = '\"' then some double
    else if c = '\'' then some single
    else if Text.isBlank c ∧ c ≠ '\n' ∧ c ≠ '\r' then some blank
    else some complete
  | blank, c =>
    if c = '#' then none
    else if c = '\\' then some escape
    else if c = '\"' then some double
    else if c = '\'' then some single
    else some complete
  | escape, _ => some complete
  | single, c =>
    some (if c = '\\' then singleEscape else if c = '\'' then complete else single)
  | singleEscape, _ => some single
  | double, c =>
    some (if c = '\\' then doubleEscape else if c = '\"' then complete else double)
  | doubleEscape, _ => some double

/-- What stands before a comment, and the quoting at the end if there is no comment. -/
def scan : Quoting → List Char → List Char × Option Quoting
  | q, [] => ([], some q)
  | q, c :: rest =>
    match q.after c with
    | none => ([], none)
    | some q' => (c :: (scan q' rest).1, (scan q' rest).2)

/-- The lines of a file, each with the line feed that ends it. -/
def lines (bytes : Bytes) : List Bytes :=
  let parts := Text.splitWhere (· == 0x0A) bytes
  parts.dropLast.map (· ++ [0x0A]) ++
    (match parts.getLast? with
      | some [] | none => []
      | some last => [last])

/-- A line without the line break that ends it. -/
def withoutBreak (cs : List Char) : List Char :=
  match cs.reverse with
  | '\n' :: '\r' :: rest => rest.reverse
  | '\n' :: rest => rest.reverse
  | _ => cs

/-- Put together the lines that quotes hold together, given what is held so far; `none` stands for a
line that is not text or whose quotes are never closed. -/
def entries : List Char → Quoting → List Bytes → List (Option (List Char))
  | _, q, [] => if q = .complete then [] else [none]
  | held, q, line :: rest =>
    match line.readChars? with
    | none => [none]
    | some cs =>
      let all := held ++ cs
      if (all.dropWhile Text.isBlank).head? = some '#' then entries [] .complete rest
      else
        match scan q cs with
        | (kept, none) => some (held ++ kept) :: entries [] .complete rest
        | (_, some .complete) => some (withoutBreak all) :: entries [] .complete rest
        | (_, some open') => entries all open' rest

/-- Decide whether a character may stand in the name of a variable that is put into a value. Beyond
ASCII that is any but white space. -/
def isReferenceChar (c : Char) : Bool :=
  c.isAlphanum || (0x80 ≤ c.toNat && !Text.isBlank c)

/-- Where in a value the reader is. -/
inductive Mode where
  | plain
  | single
  | escaped
  | ending
  | reference (name : List Char)
  | braced (name : List Char)

/-- The value that is put in for a name; an unknown name stands for nothing. -/
def valueOf (vars : Variables) (name : List Char) : List Char :=
  ((vars.get? (String.ofList name)).getD "").toList

/-- What a character after a backslash stands for. -/
def unescape? (c : Char) : Option Char :=
  if c = 'n' then some '\n'
  else if c = '\\' ∨ c = '\'' ∨ c = '\"' ∨ c = '$' ∨ c = ' ' then some c
  else none

/-- Read a value on, in double quotes or not, after what has been read. -/
def readFrom (vars : Variables) : Mode → Bool → List Char → List Char → Option (List Char)
  | .plain, quoted, out, [] | .escaped, quoted, out, [] | .ending, quoted, out, [] =>
    if quoted then none else some out
  | .single, _, _, [] | .braced _, _, _, [] => none
  | .reference name, quoted, out, [] => if quoted then none else some (out ++ valueOf vars name)
  | .plain, quoted, out, c :: rest =>
    if c = '$' then readFrom vars (.reference []) quoted out rest
    else if c = '\\' then readFrom vars .escaped quoted out rest
    else if c = '\"' then readFrom vars .plain (!quoted) out rest
    else if quoted then readFrom vars .plain quoted (out ++ [c]) rest
    else if c = '\'' then readFrom vars .single quoted out rest
    else if c = ' ' ∨ c = '\t' then readFrom vars .ending quoted out rest
    else readFrom vars .plain quoted (out ++ [c]) rest
  | .single, quoted, out, c :: rest =>
    if c = '\'' then readFrom vars .plain quoted out rest
    else readFrom vars .single quoted (out ++ [c]) rest
  | .escaped, quoted, out, c :: rest =>
    match unescape? c with
    | some c' => readFrom vars .plain quoted (out ++ [c']) rest
    | none => none
  | .ending, quoted, out, c :: rest =>
    if c = ' ' ∨ c = '\t' then readFrom vars .ending quoted out rest
    else if c = '#' then some out
    else none
  | .reference name, quoted, out, c :: rest =>
    if isReferenceChar c then readFrom vars (.reference (name ++ [c])) quoted out rest
    else if c = '\x7b' ∧ name = [] then readFrom vars (.braced []) quoted out rest
    else if c = '$' then readFrom vars (.reference []) quoted (out ++ valueOf vars name) rest
    else readFrom vars .plain quoted (out ++ valueOf vars name ++ [c]) rest
  | .braced name, quoted, out, c :: rest =>
    if c = '\x7d' then readFrom vars .plain quoted (out ++ valueOf vars name) rest
    else readFrom vars (.braced (name ++ [c])) quoted out rest

/-- Read the value of an entry; nothing or a comment is the empty value. -/
def readValue (vars : Variables) (cs : List Char) : Option (List Char) :=
  if cs.head? = none ∨ cs.head? = some '#' then some [] else readFrom vars .plain false [] cs

/-- Decide whether a character may begin a variable's name. -/
def isNameStart (c : Char) : Bool :=
  c.isAlpha || c == '_'

/-- Decide whether a character may stand in a variable's name. -/
def isNameChar (c : Char) : Bool :=
  c.isAlphanum || c == '_' || c == '.'

/-- The name at the front, and what follows the white space after it. -/
def cutName (cs : List Char) : Option (List Char × List Char) :=
  match cs.head? with
  | some c =>
    if isNameStart c then
      some (cs.takeWhile isNameChar, (cs.dropWhile isNameChar).dropWhile Text.isBlank)
    else none
  | none => none

/-- What follows an equals sign and the white space after it. -/
def cutEquals : List Char → Option (List Char)
  | '=' :: rest => some (rest.dropWhile Text.isBlank)
  | _ => none

/-- The name of an entry with what stands for its value; `export` in front is left out unless it is
the name itself. -/
def cutEntry (cs : List Char) : Option (List Char × List Char) := do
  let (name, rest) ← cutName cs
  match cutEquals rest with
  | some value => return (name, value)
  | none =>
    if name = "export".toList then
      let (name, rest) ← cutName rest
      return (name, ← cutEquals rest)
    else none

/-- A line without white space at its ends. -/
def trim (cs : List Char) : List Char :=
  ((cs.dropWhile Text.isBlank).reverse.dropWhile Text.isBlank).reverse

/-- Take the variables of entries in turn. A variable that is there already stays as it is. -/
def load (vars : Variables) : List (Option (List Char)) → Variables
  | [] => vars
  | none :: _ => vars
  | some line :: rest =>
    let line := trim line
    if line.head? = none ∨ line.head? = some '#' then load vars rest
    else
      match cutEntry line with
      | none => vars
      | some (name, text) =>
        match readValue vars text with
        | none => vars
        | some value =>
          load (vars.addMissing (String.ofList name, String.ofList value)) rest

/-- The bytes of a file without a byte-order mark. -/
def withoutMark : Bytes → Bytes
  | 0xEF :: 0xBB :: 0xBF :: rest => rest
  | bytes => bytes

/-- Add the variables of a file to those that are there. -/
def read (vars : Variables) (bytes : Bytes) : Variables :=
  load vars (entries [] .complete (lines (withoutMark bytes)))

end CsvCleaning.VariableFile
