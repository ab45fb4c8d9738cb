import CsvCleaning.Settings.Assignment

/-!
# Settings from variables

A variable whose name begins with `CSV_PIPELINE__`, in any case, gives a value to the place that
the rest of its name spells, two underscores parting the names.
-/

namespace CsvCleaning

/-- The variables of an environment, names with values. -/
abbrev Variables := List (String × String)

namespace Variables

/-- The value of a variable. -/
def get? (vars : Variables) (name : String) : Option String :=
  (vars.find? (·.1 == name)).map (·.2)

/-- What the names of variables that give settings begin with, in lower case. -/
def settingPrefix : List Char :=
  "csv_pipeline__".toList

/-- Put a dot for every two underscores, from the left. -/
def dotted : List Char → List Char
  | '_' :: '_' :: rest => '.' :: dotted rest
  | c :: rest => c :: dotted rest
  | [] => []

/-- The key that a variable's name spells, if it gives a setting. -/
def key? (name : String) : Option String :=
  let lowered := Text.lower name.toList
  if settingPrefix.isPrefixOf lowered then
    some (String.ofList (dotted (lowered.drop settingPrefix.length)))
  else none

/-- The assignment that a variable makes, if it gives a setting. -/
def assignment? (entry : String × String) : Option Assignment :=
  (key? entry.1).map fun key => ⟨Assignment.placeOfKey key, RawValue.ofVariable entry.2⟩

/-- The assignments that variables make. -/
def assignments (vars : Variables) : List Assignment :=
  vars.filterMap assignment?

/-- Add a variable unless its name is taken. -/
def addMissing (vars : Variables) (entry : String × String) : Variables :=
  if (vars.get? entry.1).isSome then vars else vars ++ [entry]

/-- A variable that is there keeps its value. -/
theorem get?_addMissing {vars : Variables} {name value : String} (h : vars.get? name = some value)
    (entry : String × String) : (vars.addMissing entry).get? name = some value := by
  unfold addMissing
  split
  · exact h
  · obtain ⟨found, hf, rfl⟩ := Option.map_eq_some_iff.1 h
    simp [get?, List.find?_append, hf]

end Variables

end CsvCleaning
