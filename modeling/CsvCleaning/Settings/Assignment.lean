import CsvCleaning.Json.Value
import CsvCleaning.Settings.RawValue
import CsvCleaning.Text.Split

/-!
# Assignments of settings

A setting stands at a place, the names that lead to it through sections. Sources of settings are
lists of assignments, and a later one prevails over all before it that it touches: a value stands
in the way of what was below its place, and what stands below a place makes the place a table.
-/

namespace CsvCleaning

/-- A value given to a place. -/
structure Assignment where
  place : List String
  value : RawValue
deriving Repr

namespace Assignment

/-- Decide whether an assignment bears on what stands at a place. A table by itself bears only on
the places above it and its own. -/
def touches (a : Assignment) (place : List String) : Bool :=
  place.isPrefixOf a.place || (!a.value.isTable && a.place.isPrefixOf place)

/-- What an assignment leaves at a place that it touches. -/
def left? (a : Assignment) (place : List String) : Option RawValue :=
  if a.place = place then some a.value else none

/-- What stands at a place after an assignment. -/
def follow (place : List String) (before : Option RawValue) (a : Assignment) : Option RawValue :=
  if a.touches place then a.left? place else before

/-- What stands at a place after assignments have been made in turn. -/
def valueAt? (assignments : List Assignment) (place : List String) : Option RawValue :=
  assignments.foldl (follow place) none

/-- Decide whether a character may stand in a name that is spelled without quotes. -/
def isNameChar (c : Char) : Bool :=
  c.isAlphanum || c == '_' || c == '-'

/-- The place that a key spells: names with dots between them. A key that is not of this form is
a name itself. -/
def placeOfKey (key : String) : List String :=
  let names := Text.splitWhere (· == '.') key.toList
  if names.all fun name => name ≠ [] ∧ name.all isNameChar then names.map String.ofList else [key]

/-- Let the first name of an assignment's place spell a place. -/
def expandKey (a : Assignment) : Assignment :=
  match a.place with
  | [] => a
  | key :: rest => { a with place := placeOfKey key ++ rest }

/-- The value of a JSON number: a whole number when it fits 64 bits with a sign. -/
def numberValue : JsonNumber → RawValue
  | .int n =>
    if RawValue.wordLimits.1 ≤ n ∧ n ≤ RawValue.wordLimits.2 then .int n
    else
      match Binary64.ofQuotient? (n < 0) n.natAbs 1 with
      | some x => .real (.finite x)
      | none => .real (.infinite (n < 0))
  | .real x => .real (.finite x)

/-- What a list holds of assignments: what stands at their own place, or a table if they only say
what stands below it. -/
def item (assignments : List Assignment) : RawValue :=
  (valueAt? assignments []).getD .table

mutual

/-- The value that a JSON value is by itself. -/
def ownValue : Json → RawValue
  | .null => .nothing
  | .bool b => .bool b
  | .number n => numberValue n
  | .text s => .text s
  | .array items => .list (ownValues items)
  | .object _ => .table

/-- The values that JSON values are. -/
def ownValues : List Json → List RawValue
  | [] => []
  | j :: rest => ownValue j :: ownValues rest

end

mutual

/-- The assignments that a JSON value at a place makes. -/
def ofJson (place : List String) : Json → List Assignment
  | .object members => ⟨place, .table⟩ :: ofMembers place members
  | j => [⟨place, ownValue j⟩]

/-- The assignments that the members of an object make. -/
def ofMembers (place : List String) : List (String × Json) → List Assignment
  | [] => []
  | (name, v) :: rest => ofJson (place ++ [name]) v ++ ofMembers place rest

end

/-- What comes later prevails, and what does not touch a place leaves it. -/
theorem valueAt?_append_of_untouched {before after : List Assignment} {place : List String}
    (h : ∀ a ∈ after, a.touches place = false) :
    valueAt? (before ++ after) place = valueAt? before place := by
  unfold valueAt?
  rw [List.foldl_append]
  generalize before.foldl (follow place) none = found
  induction after generalizing found with
  | nil => rfl
  | cons a rest ih =>
    rw [List.foldl_cons, ih fun x hx => h x (List.mem_cons_of_mem _ hx)]
    simp [follow, h a List.mem_cons_self]

/-- An assignment to a place decides what stands there. -/
theorem valueAt?_concat (assignments : List Assignment) (place : List String) (v : RawValue) :
    valueAt? (assignments ++ [⟨place, v⟩]) place = some v := by
  simp [valueAt?, follow, touches, left?]

end Assignment

end CsvCleaning
