import CsvCleaning.Settings.VariableFile
import Mathlib.Data.List.Induction

/-!
# What a source says of a place

A list of assignments says of a place what the last assignment that touches it leaves there, so of
two lists in a row the second is asked first. Variables say of a place what the last of them gives
whose name spells it; a file of variables adds those of its variables whose names are not taken.
-/

namespace CsvCleaning

namespace Assignment

/-- What assignments say of a place: what the last of those that touch it leaves there, or a table
if that one only says what stands below it. -/
def told? (assignments : List Assignment) (place : List String) : Option RawValue :=
  (assignments.filter (·.touches place)).getLast?.map fun a => (a.left? place).getD .table

/-- What stands at a place is what the last assignment that touches it has left there. -/
theorem valueAt?_eq_left? (assignments : List Assignment) (place : List String) :
    valueAt? assignments place =
      (assignments.filter (·.touches place)).getLast?.bind (·.left? place) := by
  induction assignments using List.reverseRecOn with
  | nil => rfl
  | append_singleton before a ih =>
    rw [valueAt?, List.foldl_append, List.foldl_cons, List.foldl_nil, ← valueAt?, ih, follow,
      List.filter_append]
    by_cases ha : a.touches place <;> simp [ha]

/-- Of two sources the later one is asked first. -/
theorem told?_append (before after : List Assignment) (place : List String) :
    told? (before ++ after) place = (told? after place).or (told? before place) := by
  rw [told?, List.filter_append, List.getLast?_append, told?, told?, Option.map_or]

/-- What stands at a place converts if what is said of it does, since a table does not. -/
theorem valueAt?_bind {α : Type} {convert? : RawValue → Option α} (htable : convert? .table = none)
    (assignments : List Assignment) (place : List String) :
    (valueAt? assignments place).bind convert? = (told? assignments place).bind convert? := by
  rw [valueAt?_eq_left?, told?]
  cases (assignments.filter (·.touches place)).getLast? with
  | none => rfl
  | some a => cases h : a.left? place <;> simp [h, htable]

/-- Where only tables are put there is a table or nothing. -/
theorem valueAt?_of_tables {assignments : List Assignment} {place : List String}
    (h : ∀ a ∈ assignments, a.place = place → a.value.isTable = true) {v : RawValue}
    (hv : valueAt? assignments place = some v) : v = .table := by
  rw [valueAt?_eq_left?] at hv
  obtain ⟨a, ha, hleft⟩ := Option.bind_eq_some_iff.1 hv
  unfold left? at hleft
  split at hleft
  · next hplace =>
    have htable := h a (List.mem_filter.1 (List.mem_of_getLast? ha)).1 hplace
    cases hleft
    cases hvalue : a.value <;> simp_all [RawValue.isTable]
  · cases hleft

end Assignment

namespace Variables

/-- The place that a variable's name spells, if it gives a setting. -/
def place? (name : String) : Option (List String) :=
  (key? name).map Assignment.placeOfKey

/-- The variables whose names spell a place. -/
def spelling (vars : Variables) (place : List String) : Variables :=
  vars.filter fun e => place? e.1 = some place

/-- Of some of the variables, those whose names spell a place. -/
theorem spelling_filter (vars : Variables) (p : String × String → Bool) (place : List String) :
    spelling (vars.filter p) place = (vars.spelling place).filter p := by
  simp only [spelling, List.filter_filter, Bool.and_comm]

/-- The name of a variable that spells a place does. -/
theorem place?_of_mem_spelling {vars : Variables} {place : List String} {e : String × String}
    (h : e ∈ vars.spelling place) : place? e.1 = some place := by
  simpa using (List.mem_filter.1 h).2

/-- What variables say of a place: the value of the last one whose name spells it. -/
def told? (vars : Variables) (place : List String) : Option RawValue :=
  (vars.spelling place).getLast?.map fun e => RawValue.ofVariable e.2

/-- Of two groups of variables the later one is asked first. -/
theorem told?_append (before after : Variables) (place : List String) :
    told? (before ++ after) place = (told? after place).or (told? before place) := by
  rw [told?, spelling, List.filter_append, List.getLast?_append, Option.map_or]
  rfl

/-- Variables say nothing of a place that none of their names spells. -/
theorem told?_eq_none_iff {vars : Variables} {place : List String} :
    vars.told? place = none ↔ ∀ e ∈ vars, place? e.1 ≠ some place := by
  simp [told?, spelling]

/-- A name spells a place in any case. -/
theorem place?_eq_of_lower_eq {name other : String}
    (h : Text.lower name.toList = Text.lower other.toList) : place? name = place? other := by
  rw [place?, key?, h, place?, key?]

/-- A variable assigns its value to the place that its name spells. -/
theorem assignment?_eq (e : String × String) :
    assignment? e = (place? e.1).map fun place => ⟨place, RawValue.ofVariable e.2⟩ := by
  rw [assignment?, place?, Option.map_map]
  rfl

/-- The value of a variable is never a table. -/
theorem isTable_ofVariable (s : String) : (RawValue.ofVariable s).isTable = false := by
  dsimp only [RawValue.ofVariable]
  split
  · rfl
  · split
    · rfl
    · split
      · rfl
      · split <;> rfl

/-- No variable stands for something above a place or below it. -/
def Separate (vars : Variables) (place : List String) : Prop :=
  ∀ e ∈ vars, ∀ found, place? e.1 = some found →
    found <+: place ∨ place <+: found → found = place

/-- Such variables touch the place only by spelling it. -/
theorem filter_touches_assignments {vars : Variables} {place : List String}
    (h : vars.Separate place) :
    vars.assignments.filter (·.touches place) =
      (vars.spelling place).map fun e => ⟨place, RawValue.ofVariable e.2⟩ := by
  unfold assignments spelling
  induction vars with
  | nil => rfl
  | cons e rest ih =>
    have hrest := ih fun x hx => h x (List.mem_cons_of_mem _ hx)
    rw [List.filterMap_cons, assignment?_eq]
    cases hplace : place? e.1 with
    | none => simpa [hplace] using hrest
    | some found =>
      by_cases heq : found = place
      · subst heq
        simpa [hplace, Assignment.touches] using hrest
      · have hapart : ¬ (found <+: place ∨ place <+: found) := fun hor =>
          heq (h e List.mem_cons_self found hplace hor)
        simpa [hplace, heq, Assignment.touches, not_or.1 hapart, isTable_ofVariable] using hrest

/-- Such variables say of a place what their assignments say. -/
theorem told?_assignments {vars : Variables} {place : List String} (h : vars.Separate place) :
    Assignment.told? vars.assignments place = vars.told? place := by
  rw [Assignment.told?, filter_touches_assignments h, List.getLast?_map, told?, Option.map_map]
  congr 1
  funext e
  simp [Assignment.left?]

/-- A variable whose name is not there is none of the variables. -/
theorem get?_eq_none_iff {vars : Variables} {name : String} :
    vars.get? name = none ↔ ∀ e ∈ vars, e.1 ≠ name := by
  simp [get?]

/-- A name that spells a place is taken by those variables alone whose names spell it. -/
theorem isNone_get?_spelling {vars : Variables} {place : List String} {name : String}
    (h : place? name = some place) :
    ((vars.spelling place).get? name).isNone = (vars.get? name).isNone := by
  rw [Bool.eq_iff_iff, Option.isNone_iff_eq_none, Option.isNone_iff_eq_none, get?_eq_none_iff,
    get?_eq_none_iff]
  constructor
  · rintro hnone e he rfl
    exact hnone e (List.mem_filter.2 ⟨he, by simpa using h⟩) rfl
  · exact fun hnone e he => hnone e (List.mem_filter.1 he).1

/-- Added in turn, variables whose names differ are added unless their names are taken. -/
theorem foldl_addMissing {entries : Variables} (hnodup : (entries.map (·.1)).Nodup)
    (vars : Variables) :
    entries.foldl addMissing vars = vars ++ entries.filter fun e => (vars.get? e.1).isNone := by
  induction entries generalizing vars with
  | nil => simp
  | cons e rest ih =>
    rw [List.map_cons, List.nodup_cons] at hnodup
    rw [List.foldl_cons, ih hnodup.2, addMissing]
    split
    · next htaken =>
      rw [List.filter_cons_of_neg (by simpa [Option.isSome_iff_ne_none] using htaken)]
    · next hfree =>
      have hrest : ∀ x ∈ rest, ((vars ++ [e]).get? x.1).isNone = (vars.get? x.1).isNone := by
        intro x hx
        have hne : e.1 ≠ x.1 := fun heq => hnodup.1 (heq ▸ List.mem_map_of_mem hx)
        rw [Bool.eq_iff_iff, Option.isNone_iff_eq_none, Option.isNone_iff_eq_none,
          get?_eq_none_iff, get?_eq_none_iff]
        simp [or_imp, forall_and, hne]
      rw [List.filter_cons_of_pos (by simpa using hfree), List.filter_congr hrest,
        List.append_assoc, List.singleton_append]

end Variables

namespace VariableFile

/-- The variables of entries in turn, those before the first entry that is not understood. -/
def given (vars : Variables) : List (Option (List Char)) → Variables
  | [] => []
  | none :: _ => []
  | some line :: rest =>
    let line := trim line
    if line.head? = none ∨ line.head? = some '#' then given vars rest
    else
      match cutEntry line with
      | none => []
      | some (name, text) =>
        match readValue vars text with
        | none => []
        | some value =>
          let e := (String.ofList name, String.ofList value)
          e :: given (vars.addMissing e) rest

/-- The variables of a file are added in turn. -/
theorem load_eq_foldl (vars : Variables) (lines : List (Option (List Char))) :
    load vars lines = (given vars lines).foldl Variables.addMissing vars := by
  fun_induction load vars lines <;> simp_all +zetaDelta [given]

end VariableFile

end CsvCleaning
