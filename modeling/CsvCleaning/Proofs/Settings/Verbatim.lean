import CsvCleaning.Proofs.Settings.Layers
import CsvCleaning.Proofs.Text.Numerals

/-!
# Texts of settings that come from variables

The text of a variable is read for what it may write, a yes or no, a whole number or a real number,
before a setting takes it. A setting that holds a text takes the text of what was read, which need
not be the one that was written. It is the one that was written unless the text is a word for yes or
no in another case, a whole number that is not a numeral, or a real number other than in its
shortest form. In all else the settings are loaded as if the setting had taken the text as it
stands.
-/

namespace CsvCleaning

namespace RawValue

/-- The text that a setting takes from the text of a variable. -/
def carried (s : String) : String :=
  (ofVariable s).toText?.getD s

/-- The value of a variable always converts to a text. -/
theorem toText?_ofVariable (s : String) : (ofVariable s).toText? = some (carried s) := by
  rw [carried]
  dsimp only [ofVariable]
  split
  · rfl
  · split
    · rfl
    · split
      · rfl
      · split <;> rfl

/-- A word for yes or no is taken in lower case. -/
theorem carried_of_word {s : String}
    (h : String.ofList (Text.lower s.toList) ∈ ["true", "false"]) :
    carried s = String.ofList (Text.lower s.toList) := by
  simp only [List.mem_cons, List.not_mem_nil, or_false] at h
  dsimp only [carried, ofVariable]
  rcases h with h | h <;> rw [h] <;> rfl

/-- A whole number is taken as the number is written. -/
theorem carried_of_whole {s : String} {n : Int}
    (hword : String.ofList (Text.lower s.toList) ∉ ["true", "false"])
    (h : wholeNumber? wordLimits.1 wordLimits.2 s.toList = some n) : carried s = toString n := by
  simp only [List.mem_cons, List.not_mem_nil, or_false, not_or] at hword
  dsimp only [carried, ofVariable]
  rw [if_neg hword.1, if_neg hword.2, h]
  rfl

/-- A real number that is no whole number is taken as the number is written. -/
theorem carried_of_real {s : String} {x : Extended}
    (hword : String.ofList (Text.lower s.toList) ∉ ["true", "false"])
    (hwhole : wholeNumber? wordLimits.1 wordLimits.2 s.toList = none)
    (h : real? s.toList = some x) : carried s = x.write := by
  simp only [List.mem_cons, List.not_mem_nil, or_false, not_or] at hword
  dsimp only [carried, ofVariable]
  rw [if_neg hword.1, if_neg hword.2, hwhole]
  dsimp only
  rw [h]
  rfl

/-- Any other text is taken as it stands. -/
theorem carried_of_other {s : String}
    (hword : String.ofList (Text.lower s.toList) ∉ ["true", "false"])
    (hwhole : wholeNumber? wordLimits.1 wordLimits.2 s.toList = none)
    (hreal : real? s.toList = none) : carried s = s := by
  simp only [List.mem_cons, List.not_mem_nil, or_false, not_or] at hword
  dsimp only [carried, ofVariable]
  rw [if_neg hword.1, if_neg hword.2, hwhole]
  dsimp only
  rw [hreal]
  rfl

/-- A text that is spelled as what is read from it is written: a word for yes or no in lower case, a
whole number as a numeral, a real number in its shortest form; or a text that is none of these. -/
structure IsVerbatim (s : String) : Prop where
  word : String.ofList (Text.lower s.toList) ∈ ["true", "false"] → s ∈ ["true", "false"]
  whole : ∀ n, wholeNumber? wordLimits.1 wordLimits.2 s.toList = some n → IsWholeNumeral s.toList
  real : wholeNumber? wordLimits.1 wordLimits.2 s.toList = none →
    ∀ x, real? s.toList = some x → x.write = s

/-- The words for yes and no stand in lower case, and write no number. -/
theorem of_mem_words {s : String} (h : s ∈ ["true", "false"]) :
    String.ofList (Text.lower s.toList) = s ∧
      wholeNumber? wordLimits.1 wordLimits.2 s.toList = none ∧ real? s.toList = none := by
  simp only [List.mem_cons, List.not_mem_nil, or_false] at h
  rcases h with rfl | rfl <;> decide +kernel

/-- A text is taken as it stands precisely if it is spelled as what is read from it is written. -/
theorem carried_eq_iff (s : String) : carried s = s ↔ IsVerbatim s := by
  by_cases hword : String.ofList (Text.lower s.toList) ∈ ["true", "false"]
  · rw [carried_of_word hword]
    refine ⟨fun hs => ?_, fun h => (of_mem_words (h.word hword)).1⟩
    rw [hs] at hword
    obtain ⟨-, hwhole, hreal⟩ := of_mem_words hword
    exact ⟨fun _ => hword, by simp [hwhole], by simp [hreal]⟩
  · cases hwhole : wholeNumber? wordLimits.1 wordLimits.2 s.toList with
    | some n =>
      rw [carried_of_whole hword hwhole, ← String.toList_inj, toString_eq_iff_of_wholeNumber? hwhole]
      exact ⟨fun h => ⟨fun h' => absurd h' hword, fun _ _ => h, by simp [hwhole]⟩,
        fun h => h.whole n hwhole⟩
    | none =>
      cases hreal : real? s.toList with
      | some x =>
        rw [carried_of_real hword hwhole hreal]
        exact ⟨fun h => ⟨fun h' => absurd h' hword, by simp [hwhole], by simpa [hreal] using fun _ => h⟩,
          fun h => h.real hwhole x hreal⟩
      | none =>
        exact iff_of_true (carried_of_other hword hwhole hreal)
          ⟨fun h' => absurd h' hword, by simp [hwhole], by simp [hreal]⟩

/-- Decide whether a value is neither a table nor a list, nor missing. -/
def isScalar : RawValue → Bool
  | bool _ | int _ | real _ | text _ => true
  | nothing | list _ | table => false

/-- No scalar is a table. -/
theorem isTable_of_isScalar {v : RawValue} (h : v.isScalar = true) : v.isTable = false := by
  cases v <;> first | rfl | cases h

/-- The value of a variable is a scalar. -/
theorem isScalar_ofVariable (s : String) : (ofVariable s).isScalar = true := by
  have htext := toText?_ofVariable s
  cases hvalue : ofVariable s <;> first | rfl | (rw [hvalue] at htext; cases htext)

end RawValue

/-- How the text of a variable for a place is taken. -/
abbrev Taking := List String → String → RawValue

namespace Taking

/-- Texts are read for what they may write, for every place. -/
def reading : Taking :=
  fun _ s => RawValue.ofVariable s

/-- Texts for one place are taken as they stand, those for others are read. -/
def exceptAt (place : List String) : Taking :=
  fun found s => if found = place then .text s else RawValue.ofVariable s

/-- Whatever the text, a scalar is taken. -/
def IsScalar (take : Taking) : Prop :=
  ∀ found s, (take found s).isScalar = true

/-- What is read from texts are scalars. -/
theorem isScalar_reading : reading.IsScalar :=
  fun _ s => RawValue.isScalar_ofVariable s

/-- Texts as they stand are scalars. -/
theorem isScalar_exceptAt (place : List String) : (exceptAt place).IsScalar := by
  intro found s
  unfold exceptAt
  split
  · rfl
  · exact RawValue.isScalar_ofVariable s

end Taking

namespace Variables

/-- The assignments of variables whose texts are taken in some way. -/
def assignmentsBy (take : Taking) (vars : Variables) : List Assignment :=
  vars.filterMap fun e => (place? e.1).map fun found => ⟨found, take found e.2⟩

/-- The assignments of variables are those by reading. -/
theorem assignmentsBy_reading (vars : Variables) :
    vars.assignmentsBy .reading = vars.assignments := by
  rw [assignmentsBy, assignments]
  congr 1
  funext e
  rw [assignment?_eq]
  rfl

variable {take take' : Taking} {place other : List String}

/-- A variable that gives no setting adds no assignment. -/
theorem assignmentsBy_snoc_of_none {e : String × String} (h : place? e.1 = none)
    (take : Taking) (before : Variables) :
    assignmentsBy take (before ++ [e]) = assignmentsBy take before := by
  simp [assignmentsBy, h]

/-- A variable that gives a setting adds its assignment. -/
theorem assignmentsBy_snoc_of_some {e : String × String} {found : List String}
    (h : place? e.1 = some found) (take : Taking) (before : Variables) :
    assignmentsBy take (before ++ [e]) =
      assignmentsBy take before ++ [⟨found, take found e.2⟩] := by
  simp [assignmentsBy, h]

end Variables

namespace Assignment

/-- What stands at a place after one more assignment. -/
theorem valueAt?_snoc (l : List Assignment) (a : Assignment) (place : List String) :
    valueAt? (l ++ [a]) place = follow place (valueAt? l place) a := by
  rw [valueAt?, List.foldl_append]
  rfl

/-- An assignment of a scalar bears on what stands above its place, at it and below it. -/
theorem touches_scalar {v : RawValue} (hv : v.isScalar = true) (found place : List String) :
    touches ⟨found, v⟩ place = (place.isPrefixOf found || found.isPrefixOf place) := by
  rw [touches, RawValue.isTable_of_isScalar hv]
  rfl

end Assignment

namespace Variables

variable {take take' : Taking} {place other : List String} {s : String}

/-- How texts are taken for other places does not change what stands at a place. -/
theorem valueAt?_assignmentsBy_congr (htake : take.IsScalar) (htake' : take'.IsScalar)
    (h : take other = take' other) (l : List Assignment) (vars : Variables) :
    Assignment.valueAt? (l ++ vars.assignmentsBy take) other =
      Assignment.valueAt? (l ++ vars.assignmentsBy take') other := by
  induction vars using List.reverseRecOn with
  | nil => rfl
  | append_singleton before e ih =>
    cases hplace : place? e.1 with
    | none => rw [assignmentsBy_snoc_of_none hplace, assignmentsBy_snoc_of_none hplace, ih]
    | some found =>
      rw [assignmentsBy_snoc_of_some hplace, assignmentsBy_snoc_of_some hplace,
        ← List.append_assoc, ← List.append_assoc, Assignment.valueAt?_snoc,
        Assignment.valueAt?_snoc, ih, Assignment.follow, Assignment.follow,
        Assignment.touches_scalar (htake _ _), Assignment.touches_scalar (htake' _ _)]
      by_cases hfound : found = other
      · rw [hfound, h]
      · simp [Assignment.left?, hfound]

/-- Where variables give a place one text, what stands there is what is taken from it, unless a later
variable stands in its way: and that does not depend on how texts are taken. -/
theorem valueAt?_assignmentsBy_given (l : List Assignment) {vars : Variables}
    (hgiven : ∃ e ∈ vars, place? e.1 = some place)
    (honly : ∀ e ∈ vars, place? e.1 = some place → e.2 = s) :
    ∃ kept : Bool, ∀ take : Taking, take.IsScalar →
      Assignment.valueAt? (l ++ vars.assignmentsBy take) place =
        if kept then some (take place s) else none := by
  induction vars using List.reverseRecOn with
  | nil => simp at hgiven
  | append_singleton before e ih =>
    have honly' : ∀ d ∈ before, place? d.1 = some place → d.2 = s := fun d hd =>
      honly d (List.mem_append_left _ hd)
    have hearlier (hne : place? e.1 ≠ some place) : ∃ d ∈ before, place? d.1 = some place := by
      obtain ⟨d, hd, hdplace⟩ := hgiven
      rcases List.mem_append.mp hd with hd | hd
      · exact ⟨d, hd, hdplace⟩
      · exact absurd (List.mem_singleton.mp hd ▸ hdplace) hne
    cases hplace : place? e.1 with
    | none =>
      obtain ⟨kept, hkept⟩ := ih (hearlier (by simp [hplace])) honly'
      refine ⟨kept, fun take htake => ?_⟩
      rw [assignmentsBy_snoc_of_none hplace, hkept take htake]
    | some found =>
      by_cases hfound : found = place
      · subst hfound
        have hs := honly e (by simp) hplace
        refine ⟨true, fun take htake => ?_⟩
        rw [assignmentsBy_snoc_of_some hplace, ← List.append_assoc, hs]
        exact Assignment.valueAt?_concat _ _ _
      · obtain ⟨kept, hkept⟩ := ih (hearlier (by simp [hplace, hfound])) honly'
        refine ⟨kept && !(place.isPrefixOf found || found.isPrefixOf place), fun take htake => ?_⟩
        rw [assignmentsBy_snoc_of_some hplace, ← List.append_assoc, Assignment.valueAt?_snoc,
          Assignment.follow, Assignment.touches_scalar (htake _ _), hkept take htake,
          Assignment.left?, if_neg hfound]
        cases place.isPrefixOf found || found.isPrefixOf place <;> simp

/-- Above a place that variables give there is no list. -/
theorem valueAt?_assignmentsBy_ne_list (htake : take.IsScalar) (l : List Assignment)
    {vars : Variables} (hgiven : ∃ e ∈ vars, place? e.1 = some place) (habove : other <+: place)
    (items : List RawValue) :
    Assignment.valueAt? (l ++ vars.assignmentsBy take) other ≠ some (.list items) := by
  obtain ⟨e, he, hplace⟩ := hgiven
  have hmem : ⟨place, take place e.2⟩ ∈
      (vars.assignmentsBy take).filter (·.touches other) := by
    refine List.mem_filter.mpr ⟨List.mem_filterMap.mpr ⟨e, he, by simp [hplace]⟩, ?_⟩
    simp [Assignment.touches, habove]
  have hlast := List.getLast?_eq_some_getLast (List.ne_nil_of_mem hmem)
  generalize List.getLast _ _ = last at hlast
  have hscalar : last.value.isScalar = true := by
    obtain ⟨d, -, hd⟩ := List.mem_filterMap.mp (List.mem_filter.mp (List.mem_of_getLast? hlast)).1
    obtain ⟨found, -, rfl⟩ := Option.map_eq_some_iff.mp hd
    exact htake found d.2
  rw [Assignment.valueAt?_eq_left?, List.filter_append, List.getLast?_append, hlast]
  intro hlist
  have hvalue := (Option.ite_none_right_eq_some.mp hlist).2
  rw [Option.some.inj hvalue] at hscalar
  cases hscalar

end Variables

namespace Settings

/-- Settings that hold the same are the same. -/
theorem ext_get {s t : Settings} (h : ∀ k, s.get k = t.get k) : s = t := by
  obtain ⟨⟨url, timeout⟩, ⟨refresh, size⟩, page, directory, ending⟩ := s
  obtain ⟨⟨url', timeout'⟩, ⟨refresh', size'⟩, page', directory', ending'⟩ := t
  rw [Setting.forall_iff] at h
  simpa [get, and_assoc] using h

/-- The settings with another text for the directory or for the ending of reports. -/
def withText (s : Settings) (text : String) : Setting → Settings
  | .downloadDir => { s with view := { s.view with downloadDir := text } }
  | .reportEnding => { s with view := { s.view with reportEnding := text } }
  | .baseUrl | .timeoutSeconds | .statusRefresh | .maxFileMegabytes | .pageSize => s

section WithText

variable {k : Setting} (hk : k = .downloadDir ∨ k = .reportEnding) (s : Settings) (text : String)
include hk

/-- The setting that is changed holds the text. -/
theorem get_withText_self : (s.withText text k).get k = .text text := by
  rcases hk with rfl | rfl <;> rfl

/-- Any other setting holds what it held. -/
theorem get_withText_of_ne {k' : Setting} (h : k' ≠ k) : (s.withText text k).get k' = s.get k' := by
  rcases hk with rfl | rfl <;> cases k' <;> first | rfl | exact absurd rfl h

/-- Neither text is checked. -/
theorem check_withText : (s.withText text k).check = s.check.map (·.withText text k) := by
  have hservice : (s.withText text k).service = s.service := by
    rcases hk with rfl | rfl <;> rfl
  have hpage : (s.withText text k).view.pageSize = s.view.pageSize := by
    rcases hk with rfl | rfl <;> rfl
  rw [check, check, hservice, hpage]
  cases BaseUrl.check s.service.baseUrl with
  | error f => rfl
  | ok =>
    dsimp only
    split_ifs <;> rfl

/-- Assignments that differ in nothing but the text for one setting spell settings that differ in
nothing else. -/
theorem ofAssignments?_eq_map {l l' : List Assignment} {text text' : String}
    (hothers : ∀ k' ≠ k, k'.read? l = k'.read? l')
    (hread : (k.read? l = some (.text text) ∧ k.read? l' = some (.text text')) ∨
      (k.read? l = none ∧ k.read? l' = none)) :
    ofAssignments? l = (ofAssignments? l').map (·.withText text k) := by
  apply Option.ext
  intro t
  rw [Option.map_eq_some_iff, ofAssignments?_eq_some_iff_read?]
  simp only [ofAssignments?_eq_some_iff_read?]
  rcases hread with ⟨hl, hl'⟩ | ⟨hl, hl'⟩
  · constructor
    · intro ht
      refine ⟨t.withText text' k, fun k' => ?_, ext_get fun k' => ?_⟩ <;> by_cases hk' : k' = k
      · rw [hk', get_withText_self hk, hl']
      · rw [get_withText_of_ne hk _ _ hk', ← hothers k' hk', ht]
      · rw [hk', get_withText_self hk, ← Option.some.injEq, ← ht, hl]
      · rw [get_withText_of_ne hk _ _ hk', get_withText_of_ne hk _ _ hk']
    · rintro ⟨s, hs, rfl⟩ k'
      by_cases hk' : k' = k
      · rw [hk', get_withText_self hk, hl]
      · rw [get_withText_of_ne hk _ _ hk', hothers k' hk', hs]
  · refine iff_of_false (fun ht => ?_) (fun ⟨s, hs, _⟩ => ?_)
    · cases hl.symm.trans (ht k)
    · cases hl'.symm.trans (hs k)

end WithText

/-- Load the settings from their sources as if one of them took the texts of variables as they
stand. -/
def loadTaking (k : Setting) (vars : Variables) (tree : FileTree) (cwd : Location)
    (path : Option Path) : Except SettingsFault Settings :=
  match fileAssignments tree cwd path with
  | .error f => .error f
  | .ok file =>
    match ofAssignments? (builtIn.assignments ++ file ++
      (allVariables vars tree cwd).assignmentsBy (.exceptAt k.place)) with
    | some s => s.check
    | none => .error .unusable

variable {k : Setting} {vars : Variables} {tree : FileTree} {cwd : Location} {path : Option Path}
  {name s : String}

/-- The variables of the environment are among all variables. -/
theorem mem_allVariables {e : String × String} (h : e ∈ vars) : e ∈ allVariables vars tree cwd := by
  have hmissing (entries : Variables) : e ∈ entries.foldl Variables.addMissing vars := by
    induction entries generalizing vars with
    | nil => exact h
    | cons d rest ih =>
      refine ih ?_
      unfold Variables.addMissing
      split
      · exact h
      · exact List.mem_append_left _ h
  unfold allVariables
  split
  · rw [VariableFile.read, VariableFile.load_eq_foldl]
    exact hmissing _
  · exact h

/-- What a setting for texts reads where all variables that give it give one text: the text that is
taken of it, or nothing. -/
theorem read?_assignmentsBy (hk : k = .downloadDir ∨ k = .reportEnding) (l : List Assignment)
    (hgiven : ∃ e ∈ vars, Variables.place? e.1 = some k.place)
    (honly : ∀ e ∈ vars, Variables.place? e.1 = some k.place → e.2 = s) :
    (k.read? (l ++ vars.assignmentsBy .reading) = some (.text (RawValue.carried s)) ∧
        k.read? (l ++ vars.assignmentsBy (.exceptAt k.place)) = some (.text s)) ∨
      k.read? (l ++ vars.assignmentsBy .reading) = none ∧
        k.read? (l ++ vars.assignmentsBy (.exceptAt k.place)) = none := by
  obtain ⟨kept, hkept⟩ := Variables.valueAt?_assignmentsBy_given l hgiven honly
  have hread (take : Taking) (htake : take.IsScalar) :
      k.read? (l ++ vars.assignmentsBy take) =
        (if kept then some (take k.place s) else none).bind k.convert? := by
    rw [← hkept take htake, Setting.read?]
    split
    · next items hlist =>
      exact absurd hlist
        (Variables.valueAt?_assignmentsBy_ne_list htake l hgiven (List.take_prefix 1 _) items)
    · rfl
  have hconvert (v : RawValue) : k.convert? v = v.toText?.map .text := by
    rcases hk with rfl | rfl <;> rfl
  rw [hread _ Taking.isScalar_reading, hread _ (Taking.isScalar_exceptAt _)]
  cases kept with
  | false => exact .inr ⟨rfl, rfl⟩
  | true =>
    refine .inl ⟨?_, ?_⟩
    · rw [if_pos rfl, Option.bind_some, hconvert, Taking.reading, RawValue.toText?_ofVariable]
      rfl
    · rw [if_pos rfl, Option.bind_some, hconvert, Taking.exceptAt, if_pos rfl]
      rfl

/-- What is read for any other setting does not depend on how texts are taken for one. -/
theorem read?_assignmentsBy_of_ne {k' : Setting} (h : k' ≠ k) (l : List Assignment)
    (vars : Variables) :
    k'.read? (l ++ vars.assignmentsBy .reading) =
      k'.read? (l ++ vars.assignmentsBy (.exceptAt k.place)) := by
  have hsame {other : List String} (hother : other ≠ k.place) :
      Taking.reading other = Taking.exceptAt k.place other := by
    funext s
    rw [Taking.exceptAt, if_neg hother]
    rfl
  have hsection : k'.place.take 1 ≠ k.place := by
    intro heq
    have hlength := congrArg List.length heq
    simp [Setting.length_place] at hlength
  have hplace : k'.place ≠ k.place := fun heq =>
    h (Setting.eq_of_place_prefix (heq ▸ List.prefix_rfl))
  rw [Setting.read?, Setting.read?,
    Variables.valueAt?_assignmentsBy_congr Taking.isScalar_reading (Taking.isScalar_exceptAt _)
      (hsame hsection),
    Variables.valueAt?_assignmentsBy_congr Taking.isScalar_reading (Taking.isScalar_exceptAt _)
      (hsame hplace)]

/-- Where one text is given for a setting, the settings are loaded as if it had been taken as it
stands, but with the text that is carried over. -/
theorem load_eq_map_loadTaking (hk : k = .downloadDir ∨ k = .reportEnding)
    (hgiven : ∃ e ∈ allVariables vars tree cwd, Variables.place? e.1 = some k.place)
    (honly : ∀ e ∈ allVariables vars tree cwd, Variables.place? e.1 = some k.place → e.2 = s) :
    load vars tree cwd path =
      (loadTaking k vars tree cwd path).map (·.withText (RawValue.carried s) k) := by
  rw [load, loadTaking]
  cases fileAssignments tree cwd path with
  | error f => rfl
  | ok file =>
    dsimp only
    rw [← Variables.assignmentsBy_reading, ofAssignments?_eq_map hk
      (fun k' hk' => read?_assignmentsBy_of_ne hk' _ _) (read?_assignmentsBy hk _ hgiven honly)]
    cases ofAssignments? (builtIn.assignments ++ file ++
        (allVariables vars tree cwd).assignmentsBy (.exceptAt k.place)) with
    | none => rfl
    | some s₀ => exact check_withText hk s₀ _

/-- A setting that takes texts as they stand holds the one text that is given for it. -/
theorem get_of_loadTaking (hk : k = .downloadDir ∨ k = .reportEnding)
    (hgiven : ∃ e ∈ allVariables vars tree cwd, Variables.place? e.1 = some k.place)
    (honly : ∀ e ∈ allVariables vars tree cwd, Variables.place? e.1 = some k.place → e.2 = s)
    {s₀ : Settings} (h : loadTaking k vars tree cwd path = .ok s₀) : s₀.get k = .text s := by
  rw [loadTaking] at h
  cases hfile : fileAssignments tree cwd path with
  | error f => simp [hfile] at h
  | ok file =>
    rw [hfile] at h
    dsimp only at h
    split at h
    · next s₁ hs₁ =>
      obtain rfl := eq_of_check h
      have hread := ofAssignments?_eq_some_iff_read?.mp hs₁ k
      rcases read?_assignmentsBy hk (builtIn.assignments ++ file) hgiven honly with
        ⟨-, htext⟩ | ⟨-, hnone⟩
      · exact Option.some.inj (hread.symm.trans htext)
      · cases hnone.symm.trans hread
    · cases h

/-- The variables of the environment and of the file of variables that give the directory for
reports or their ending may give one text alone. Then the settings are loaded as if the setting took
that text as it stands, but it holds the text that is carried over; and so does the name under which
a report is saved. The text is carried over as it stands precisely if it is spelled as what is read
from it is written. -/
theorem load_carries_text (hk : k = .downloadDir ∨ k = .reportEnding) (hmem : (name, s) ∈ vars)
    (hname : Variables.place? name = some k.place)
    (honly : ∀ e ∈ allVariables vars tree cwd, Variables.place? e.1 = some k.place → e.2 = s) :
    load vars tree cwd path =
        (loadTaking k vars tree cwd path).map (·.withText (RawValue.carried s) k) ∧
      ∀ s₀, loadTaking k vars tree cwd path = .ok s₀ →
        s₀.get k = .text s ∧
        (load vars tree cwd path = .ok s₀ ↔ RawValue.IsVerbatim s) ∧
        ∀ t, load vars tree cwd path = .ok t → k = .reportEnding →
          ∀ fileId, FileName.report fileId t.view.reportEnding =
            fileId ++ RawValue.carried s ++ ".csv" := by
  have hgiven : ∃ e ∈ allVariables vars tree cwd, Variables.place? e.1 = some k.place :=
    ⟨(name, s), mem_allVariables hmem, hname⟩
  have hload : load vars tree cwd path =
      (loadTaking k vars tree cwd path).map (·.withText (RawValue.carried s) k) :=
    load_eq_map_loadTaking hk hgiven honly
  refine ⟨hload, fun s₀ hs₀ => ?_⟩
  have hget := get_of_loadTaking hk hgiven honly hs₀
  rw [hs₀] at hload
  have hcarried : (s₀.withText (RawValue.carried s) k).get k = .text (RawValue.carried s) :=
    get_withText_self hk _ _
  refine ⟨hget, ?_, ?_⟩
  · rw [hload, ← RawValue.carried_eq_iff]
    constructor
    · intro heq
      have hsame : s₀.withText (RawValue.carried s) k = s₀ := Except.ok.inj heq
      rw [hsame, hget] at hcarried
      exact (SettingValue.text.inj hcarried).symm
    · intro heq
      refine congrArg Except.ok (ext_get fun k' => ?_)
      by_cases hk' : k' = k
      · rw [hk', hcarried, hget, heq]
      · exact get_withText_of_ne hk _ _ hk'
  · rintro t ht rfl fileId
    obtain rfl := Except.ok.inj (hload.symm.trans ht)
    rfl

/-- An ending for reports is carried over as it stands, and a file of variables that gives another
one under the same name does not count. -/
theorem load_carries_text_of_ending :
    let vars := [("CSV_PIPELINE__VIEW__REPORT_SUFFIX", "_v1.0")]
    let tree : FileTree :=
      ⟨[([Bytes.utf8 ".env"], .file (Bytes.utf8 "CSV_PIPELINE__VIEW__REPORT_SUFFIX=_other\n"))]⟩
    let s : Settings := { builtIn with view := { builtIn.view with reportEnding := "_v1.0" } }
    loadTaking .reportEnding vars tree [] none = .ok s ∧ RawValue.IsVerbatim "_v1.0" ∧
      load vars tree [] none = .ok s ∧
      ∀ fileId, FileName.report fileId s.view.reportEnding = fileId ++ "_v1.0" ++ ".csv" := by
  intro vars tree s
  have hname : Variables.place? "CSV_PIPELINE__VIEW__REPORT_SUFFIX" =
      some Setting.reportEnding.place :=
    Setting.place?_of_lower_eq rfl
  have honly : ∀ e ∈ allVariables vars tree [],
      Variables.place? e.1 = some Setting.reportEnding.place → e.2 = "_v1.0" := by
    have hall : allVariables vars tree [] = vars := by decide +kernel
    rw [hall]
    simp [vars]
  have htaking : loadTaking .reportEnding vars tree [] none = .ok s := by decide +kernel
  have hcarried : RawValue.carried "_v1.0" = "_v1.0" := by decide +kernel
  have hverbatim := (RawValue.carried_eq_iff "_v1.0").mp hcarried
  obtain ⟨-, hload, hreport⟩ :=
    (load_carries_text (.inr rfl) (List.mem_singleton_self _) hname honly).2 s htaking
  refine ⟨htaking, hverbatim, hload.mpr hverbatim, fun fileId => ?_⟩
  rw [hreport s (hload.mpr hverbatim) rfl, hcarried]

/-- A text that writes a number with zeros in front is not carried over as it stands, though the
file of settings gives it as it stands. -/
theorem load_respells_number :
    let other : Settings := { builtIn with view := { builtIn.view with reportEnding := "7" } }
    let same : Settings := { builtIn with view := { builtIn.view with reportEnding := "007" } }
    let tree : FileTree :=
      ⟨[([Bytes.utf8 "config"], .directory),
        ([Bytes.utf8 "config", Bytes.utf8 "default.toml"], .file (Bytes.utf8
          "[view]\nreport_suffix = \"007\"\n"))]⟩
    load [("CSV_PIPELINE__VIEW__REPORT_SUFFIX", "007")] ⟨[]⟩ [] none = .ok other ∧
      load [] tree [] none = .ok same ∧ other ≠ same ∧
      FileName.report "a1" other.view.reportEnding ≠ "a1" ++ "007" ++ ".csv" := by
  decide +kernel

end Settings

end CsvCleaning
