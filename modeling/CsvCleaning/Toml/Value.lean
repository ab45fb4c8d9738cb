import CsvCleaning.Settings.Assignment
import CsvCleaning.Toml.Definitions
import CsvCleaning.Toml.Quoted
import CsvCleaning.Toml.Scalar

/-!
# Keys and values

A key is one name or several with dots between them, each bare or quoted. A value is a text, a
token, a list or a table in braces, whose members are assignments of their own.
-/

namespace CsvCleaning.Toml

/-- Skip white space, line breaks and comments, from within a comment or not. -/
def skipTrivia : Bool → List Char → Option (List Char)
  | _, [] => some []
  | true, c :: rest =>
    if c = '\n' then skipTrivia false rest
    else if isTextChar c then skipTrivia true rest
    else none
  | false, c :: rest =>
    if isSpace c ∨ c = '\n' then skipTrivia false rest
    else if c = '#' then skipTrivia true rest
    else some (c :: rest)

/-- Read one name of a key. -/
def name? (cs : List Char) : Option (String × List Char) :=
  match cs.head? with
  | some '\"' | some '\'' => shortText? cs
  | _ =>
    match cs.takeWhile Assignment.isNameChar with
    | [] => none
    | name => some (String.ofList name, cs.dropWhile Assignment.isNameChar)

/-- Read a key of at most `fuel` names. -/
def keyFrom : Nat → List Char → Option (List String × List Char)
  | 0, _ => none
  | fuel + 1, cs => do
    let (name, rest) ← name? (cs.dropWhile isSpace)
    match rest.dropWhile isSpace with
    | '.' :: rest =>
      let (names, rest) ← keyFrom fuel rest
      return (name :: names, rest)
    | rest => return ([name], rest)

/-- Read a key and the white space around it. -/
def key? (cs : List Char) : Option (List String × List Char) :=
  keyFrom (cs.length + 1) cs

/-- Put assignments below names. -/
def below (names : List String) (assignments : List Assignment) : List Assignment :=
  assignments.map fun a => { a with place := names ++ a.place }

mutual

/-- Read a value, in at most `fuel` steps inwards and onwards. -/
def valueFrom : Nat → List Char → Option (List Assignment × List Char)
  | 0, _ | _, [] => none
  | fuel + 1, '[' :: rest => (itemsFrom fuel rest).map fun r => ([⟨[], .list r.1⟩], r.2)
  | fuel + 1, '\x7b' :: rest =>
    (membersFrom fuel [] rest).map fun r => (⟨[], .table⟩ :: r.1, r.2)
  | _ + 1, c :: rest =>
    if c = '\"' ∨ c = '\'' then (text? (c :: rest)).map fun r => ([⟨[], .text r.1⟩], r.2)
    else
      let (token, rest) := cutToken (c :: rest)
      (scalar? token).map fun v => ([⟨[], v⟩], rest)

/-- Read the items of a list up to its end. -/
def itemsFrom : Nat → List Char → Option (List RawValue × List Char)
  | 0, _ => none
  | fuel + 1, cs => do
    match ← skipTrivia false cs with
    | ']' :: rest => return ([], rest)
    | cs =>
      let (value, rest) ← valueFrom fuel cs
      match ← skipTrivia false rest with
      | ',' :: rest =>
        let (items, rest) ← itemsFrom fuel rest
        return (Assignment.item value :: items, rest)
      | ']' :: rest => return ([Assignment.item value], rest)
      | _ => none

/-- Read the members of a table in braces up to its end. -/
def membersFrom : Nat → Definitions → List Char → Option (List Assignment × List Char)
  | 0, _, _ => none
  | fuel + 1, defs, cs => do
    match ← skipTrivia false cs with
    | '\x7d' :: rest => return ([], rest)
    | cs =>
      let (names, rest) ← key? cs
      match rest with
      | '=' :: rest =>
        let (defs, _) ← defs.assign [] names
        let (value, rest) ← valueFrom fuel (rest.dropWhile isSpace)
        match ← skipTrivia false rest with
        | ',' :: rest =>
          let (more, rest) ← membersFrom fuel defs rest
          return (below names value ++ more, rest)
        | '\x7d' :: rest => return (below names value, rest)
        | _ => none
      | _ => none

end

/-- Read a value: the assignments that it makes below its key. -/
def value? (cs : List Char) : Option (List Assignment × List Char) :=
  valueFrom (cs.length + 1) cs

end CsvCleaning.Toml
