import CsvCleaning.Toml.Value

/-!
# Documents

A document is a sequence of headers and keys with values, each on a line of its own. A header opens
a table, or the next table of a series, for the keys after it.
-/

namespace CsvCleaning.Toml

/-- The names on the way to a place up to the first series, and whether there is one. -/
def namesOf : List Step → List String × Bool
  | [] => ([], false)
  | .name s :: rest => (s :: (namesOf rest).1, (namesOf rest).2)
  | .item _ :: _ => ([], true)

/-- The assignments that a value makes at a place. A series of tables holds no setting. -/
def placed (place : List Step) (value : List Assignment) : List Assignment :=
  match namesOf place with
  | (names, false) => below names value
  | (names, true) => [⟨names, .list []⟩]

/-- See that a line ends, and skip to the next. -/
def endLine (cs : List Char) : Option (List Char) :=
  match cs.dropWhile isSpace with
  | [] => some []
  | '\n' :: rest => some rest
  | '#' :: rest => skipTrivia true rest
  | _ => none

/-- Read at most `fuel` lines, given what is defined and the table that is open. -/
def linesFrom : Nat → Definitions → List Step → List Char → Option (List Assignment)
  | 0, _, _, _ => none
  | fuel + 1, defs, table, cs => do
    match ← skipTrivia false cs with
    | [] => return []
    | '[' :: '[' :: rest =>
      let (names, rest) ← key? rest
      match rest with
      | ']' :: ']' :: rest =>
        let (defs, table) ← defs.openItem names
        return placed table [] ++ (← linesFrom fuel defs table (← endLine rest))
      | _ => none
    | '[' :: rest =>
      let (names, rest) ← key? rest
      match rest with
      | ']' :: rest =>
        let (defs, table) ← defs.openTable names
        return placed table [⟨[], .table⟩] ++ (← linesFrom fuel defs table (← endLine rest))
      | _ => none
    | cs =>
      let (names, rest) ← key? cs
      match rest with
      | '=' :: rest =>
        let (defs, place) ← defs.assign table names
        let (value, rest) ← value? (rest.dropWhile isSpace)
        return placed place value ++ (← linesFrom fuel defs table (← endLine rest))
      | _ => none

/-- Put a line feed for every pair of carriage return and line feed. -/
def withLineFeeds : List Char → List Char
  | '\r' :: '\n' :: rest => '\n' :: withLineFeeds rest
  | c :: rest => c :: withLineFeeds rest
  | [] => []

/-- The assignments that a document makes, if it is one. -/
def read? (text : String) : Option (List Assignment) :=
  let cs := withLineFeeds text.toList
  linesFrom (cs.length + 1) [] [] cs

end CsvCleaning.Toml
