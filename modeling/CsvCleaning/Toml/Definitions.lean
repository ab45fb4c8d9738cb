/-!
# What a document has defined

A name is defined once. A table may be implied by the header of a table inside it and get its own
header later; tables that dotted keys make, tables with a header and values are not opened again.
The tables of a series are kept apart by their number, and a name inside a series leads to the last
of them.
-/

namespace CsvCleaning.Toml

/-- A step to a definition: to a name in a table, or to a table of a series. -/
inductive Step where
  | name (s : String)
  | item (n : Nat)
deriving DecidableEq, Repr

/-- How something came to be defined. -/
inductive Origin where
  | implied
  | dotted
  | headed
  | value
  /-- A series with the number of its last table. -/
  | series (last : Nat)
deriving DecidableEq, Repr

/-- What is defined so far, the latest first. -/
abbrev Definitions := List (List Step × Origin)

namespace Definitions

/-- How something was defined, if it was. -/
def origin? (defs : Definitions) (place : List Step) : Option Origin :=
  (defs.find? (·.1 == place)).map (·.2)

/-- Follow names from a table to the table that they lead to, defining those that are missing. With
`dotted`, as for a key, no table with a header and no series may stand on the way. -/
def descend (dotted : Bool) : Definitions → List Step → List String → Option (Definitions × List Step)
  | defs, place, [] => some (defs, place)
  | defs, place, s :: rest =>
    let inner := place ++ [.name s]
    match defs.origin? inner with
    | none => descend dotted ((inner, if dotted then .dotted else .implied) :: defs) inner rest
    | some .value => none
    | some .headed => if dotted then none else descend dotted defs inner rest
    | some (.series last) => if dotted then none else descend dotted defs (inner ++ [.item last]) rest
    | some .implied | some .dotted => descend dotted defs inner rest

/-- Open the table of a header. -/
def openTable (defs : Definitions) (names : List String) : Option (Definitions × List Step) := do
  let (defs, place) ← descend false defs [] names.dropLast
  let inner := place ++ [.name (← names.getLast?)]
  match defs.origin? inner with
  | none | some .implied => return ((inner, .headed) :: defs, inner)
  | some _ => none

/-- Open the next table of a series. -/
def openItem (defs : Definitions) (names : List String) : Option (Definitions × List Step) := do
  let (defs, place) ← descend false defs [] names.dropLast
  let inner := place ++ [.name (← names.getLast?)]
  match defs.origin? inner with
  | none => return ((inner, .series 0) :: defs, inner ++ [.item 0])
  | some (.series last) => return ((inner, .series (last + 1)) :: defs, inner ++ [.item (last + 1)])
  | some _ => none

/-- Define the value of a key in a table. A table that a dotted key leads to has to be made by
dotted keys. -/
def assign (defs : Definitions) (table : List Step) (names : List String) :
    Option (Definitions × List Step) := do
  let (defs, place) ← descend true defs table names.dropLast
  let inner := place ++ [.name (← names.getLast?)]
  if place ≠ table ∧ defs.origin? place ≠ some .dotted then none
  else if (defs.origin? inner).isSome then none
  else return ((inner, .value) :: defs, inner)

end Definitions

end CsvCleaning.Toml
