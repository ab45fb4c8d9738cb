import CsvCleaning.Json.Document
import CsvCleaning.Number.Layout
import CsvCleaning.Text.Quoted

/-!
# Shapes of bodies

A shape names the fields of a body, says how each is read and which may be left out. A body is an
object, whose unknown members are passed over, or an array of the fields in order. Fields are
checked in document order and missing ones reported at the end, in the order of the shape.
-/

namespace CsvCleaning.Json

/-- What was found in place of the value asked for. -/
def Doc.found : Doc → Except Fault String
  | .null => .ok "null"
  | .bool true => .ok "boolean `true`"
  | .bool false => .ok "boolean `false`"
  | .number (.ok (.int n)) => .ok ("integer `" ++ toString n ++ "`")
  | .number (.ok (.real x)) => .ok ("floating point `" ++ NumberLayout.compact.write x ++ "`")
  | .number (.error f) => .error f
  | .text (.ok s) => .ok ("string " ++ Text.quoted s)
  | .text (.error f) => .error f
  | .array _ _ _ => .ok "sequence"
  | .object _ _ _ => .ok "map"
  | .broken b => .error b.needed

/-- The problem that a document is where something else is wanted. -/
def Doc.mismatch (d : Doc) (want : String) : Fault :=
  match d.found with
  | .ok got => .invalidType got want
  | .error f => f

/-- Read a text. -/
def readString : Doc → Except Fault String
  | .text s => s
  | d => .error (d.mismatch "a string")

/-- Read a truth value. -/
def readFlag : Doc → Except Fault Bool
  | .bool b => .ok b
  | d => .error (d.mismatch "a boolean")

/-- Read a whole number of 64 bits that is not negative. -/
def readCount : Doc → Except Fault Nat
  | .number (.ok (.int n)) =>
    if 0 ≤ n then .ok n.toNat
    else .error (.invalidValue ("integer `" ++ toString n ++ "`") "u64")
  | d => .error (d.mismatch "u64")

/-- Read documents in order. -/
def readAll {α : Type} (read : Doc → Except Fault α) : List Doc → Except Fault (List α)
  | [] => .ok []
  | d :: rest =>
    match read d with
    | .error f => .error f
    | .ok a => (readAll read rest).map (a :: ·)

/-- Read an array with one reader for all items. -/
def readList {α : Type} (read : Doc → Except Fault α) : Doc → Except Fault (List α)
  | .array tooDeep items stop =>
    if tooDeep then .error .nestedTooDeep
    else
      match readAll read items with
      | .error f => .error f
      | .ok as => (needStop stop).map fun _ => as
  | d => .error (d.mismatch "a sequence")

/-- Read members in order into a map. -/
def readEntries {α : Type} (read : Doc → Except Fault α) :
    List (Except Fault String × Doc) → SortedMap α → Except Fault (SortedMap α)
  | [], m => .ok m
  | (key, d) :: rest, m =>
    match key with
    | .error f => .error f
    | .ok k =>
      match read d with
      | .error f => .error f
      | .ok a => readEntries read rest (m.insert k a)

/-- Read an object as a map with one reader for all values. -/
def readMap {α : Type} (read : Doc → Except Fault α) : Doc → Except Fault (SortedMap α)
  | .object tooDeep members stop =>
    if tooDeep then .error .nestedTooDeep
    else
      match readEntries read members .empty with
      | .error f => .error f
      | .ok m => (needStop stop).map fun _ => m
  | d => .error (d.mismatch "a map")

/-- Read a value that may be null. -/
def readOption {α : Type} (read : Doc → Except Fault α) : Doc → Except Fault (Option α)
  | .null => .ok none
  | d => (read d).map some

/-- What a shape asks of one field. -/
structure FieldRule where
  name : String
  check : Doc → Except Fault Unit
  mayMiss : Bool

/-- The documents of a body's fields by name. -/
abbrev Fields := String → Option Doc

/-- The fields of a body and the value made of them. -/
structure Shape (α : Type) where
  rules : List FieldRule
  build : Fields → Except Fault α

namespace Shape

variable {α β : Type}

/-- A shape without fields. -/
def pure (a : α) : Shape α :=
  ⟨[], fun _ => .ok a⟩

/-- Read one more field after the others. -/
def and (s : Shape (α → β)) (t : Shape α) : Shape β :=
  ⟨s.rules ++ t.rules, fun fields =>
    match s.build fields with
    | .error f => .error f
    | .ok g => (t.build fields).map g⟩

/-- A field that has to be there. -/
def required (name : String) (read : Doc → Except Fault α) : Shape α :=
  ⟨[⟨name, fun d => (read d).map fun _ => (), false⟩], fun fields =>
    match fields name with
    | some d => read d
    | none => .error (.missingField name)⟩

/-- A field that has a value of its own when it is left out. -/
def withDefault (name : String) (read : Doc → Except Fault α) (default : α) : Shape α :=
  ⟨[⟨name, fun d => (read d).map fun _ => (), true⟩], fun fields =>
    match fields name with
    | some d => read d
    | none => .ok default⟩

end Shape

/-- Check members in document order: the first problem in a name, a repeated field, a field's
value, or a part that is passed over. Give the names of the fields that were met. -/
def checkMembers (rules : List FieldRule) : List String → List (Except Fault String × Doc) →
    Except Fault (List String)
  | seen, [] => .ok seen
  | seen, (key, d) :: rest =>
    match key with
    | .error f => .error f
    | .ok k =>
      match rules.find? (·.name == k) with
      | some rule =>
        if k ∈ seen then .error (.duplicateField k)
        else
          match rule.check d with
          | .error f => .error f
          | .ok () => checkMembers rules (k :: seen) rest
      | none =>
        match d.skip with
        | .error f => .error f
        | .ok () => checkMembers rules seen rest

/-- Check the items of an array against the fields in order. -/
def checkItems : List FieldRule → List Doc → Except Fault Unit
  | rule :: rules, d :: rest =>
    match rule.check d with
    | .error f => .error f
    | .ok () => checkItems rules rest
  | _, _ => .ok ()

/-- The document of a member by name. -/
def memberNamed (members : List (Except Fault String × Doc)) : Fields := fun name =>
  (members.find? fun e => match e.1 with
    | .ok k => k == name
    | .error _ => false).map (·.2)

/-- The document of an item by the name of the field at its place. -/
def itemNamed (rules : List FieldRule) (items : List Doc) : Fields := fun name =>
  ((rules.zip items).find? (·.1.name == name)).map (·.2)

/-- The problem at the end of an array whose items fill all fields, if any. -/
def endOfFields (extra : Bool) (stop : Option Break) : Except Fault Unit :=
  if extra then .error .trailingCharacters
  else
    match stop with
    | none => .ok ()
    | some b =>
      if b.needed = .expectedCommaOrBracket then .error .trailingCharacters
      else .error b.needed

/-- See that the object form of a body has the shape; give its fields. -/
def checkObject (rules : List FieldRule) (tooDeep : Bool)
    (members : List (Except Fault String × Doc)) (stop : Option Break) : Except Fault Fields :=
  if tooDeep then .error .nestedTooDeep
  else
    match checkMembers rules [] members with
    | .error f => .error f
    | .ok seen =>
      match needStop stop with
      | .error f => .error f
      | .ok () =>
        match rules.find? fun rule => !rule.mayMiss && !(rule.name ∈ seen) with
        | some rule => .error (.missingField rule.name)
        | none => .ok (memberNamed members)

/-- See that the array form of a body has the shape; give its fields. -/
def checkArray (name : String) (rules : List FieldRule) (tooDeep : Bool) (items : List Doc)
    (stop : Option Break) : Except Fault Fields :=
  if tooDeep then .error .nestedTooDeep
  else
    match checkItems rules items with
    | .error f => .error f
    | .ok () =>
      let filled := if rules.length ≤ items.length then endOfFields (rules.length < items.length) stop
        else needStop stop
      match filled with
      | .error f => .error f
      | .ok () =>
        match (rules.drop items.length).findIdx? fun rule => !rule.mayMiss with
        | some k => .error (.invalidLength (items.length + k) name rules.length)
        | none => .ok (itemNamed rules items)

/-- Read a body of a shape, in its object form or its array form. -/
def Shape.read {α : Type} (shape : Shape α) (name : String) : Doc → Except Fault α
  | .object tooDeep members stop =>
    match checkObject shape.rules tooDeep members stop with
    | .error f => .error f
    | .ok fields => shape.build fields
  | .array tooDeep items stop =>
    match checkArray name shape.rules tooDeep items stop with
    | .error f => .error f
    | .ok fields => shape.build fields
  | d => .error (d.mismatch ("struct " ++ name))

end CsvCleaning.Json
