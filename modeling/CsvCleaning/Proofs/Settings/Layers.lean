import CsvCleaning.Http.Client
import CsvCleaning.Proofs.Settings.Telling
import CsvCleaning.Settings.Load
import Mathlib.Control.Monad.Basic

/-!
# Settings in layers

Each of the seven settings is decided by itself. What is asked of it first are the variables that
the file of variables adds, then those of the environment, then the file of settings, then what is
built in; a layer that says nothing of a setting passes it on, whatever it says of others. The
settings are loaded exactly if every value so found converts and the settings make sense.

The file of variables adds only what the environment does not set by the same name, letter for
letter. So the environment prevails over it, except where the two spell one setting differently.
-/

namespace CsvCleaning

/-- The seven settings. -/
inductive Setting where
  | baseUrl
  | timeoutSeconds
  | statusRefresh
  | maxFileMegabytes
  | pageSize
  | downloadDir
  | reportEnding
deriving DecidableEq, Repr

/-- What a setting holds. -/
inductive SettingValue where
  | text (s : String)
  | count (n : Nat)
  | flag (b : Bool)
deriving DecidableEq, Repr

namespace Setting

/-- Where a setting stands. -/
def place : Setting → List String
  | baseUrl => ["gateway", "base_url"]
  | timeoutSeconds => ["gateway", "timeout_secs"]
  | statusRefresh => ["pipeline", "status_refresh"]
  | maxFileMegabytes => ["pipeline", "max_file_size_mb"]
  | pageSize => ["view", "page_size"]
  | downloadDir => ["view", "download_dir"]
  | reportEnding => ["view", "report_suffix"]

/-- A setting stands in a section. -/
theorem length_place (k : Setting) : k.place.length = 2 := by
  cases k <;> rfl

/-- A setting has a section and a name in it. -/
theorem exists_place (k : Setting) : ∃ sectionName name, k.place = [sectionName, name] := by
  cases k <;> exact ⟨_, _, rfl⟩

/-- The name of the variable that gives a setting. -/
def variableName : Setting → String
  | baseUrl => "CSV_PIPELINE__GATEWAY__BASE_URL"
  | timeoutSeconds => "CSV_PIPELINE__GATEWAY__TIMEOUT_SECS"
  | statusRefresh => "CSV_PIPELINE__PIPELINE__STATUS_REFRESH"
  | maxFileMegabytes => "CSV_PIPELINE__PIPELINE__MAX_FILE_SIZE_MB"
  | pageSize => "CSV_PIPELINE__VIEW__PAGE_SIZE"
  | downloadDir => "CSV_PIPELINE__VIEW__DOWNLOAD_DIR"
  | reportEnding => "CSV_PIPELINE__VIEW__REPORT_SUFFIX"

/-- A value as what a setting holds. -/
def convert? : Setting → RawValue → Option SettingValue
  | baseUrl, v | downloadDir, v | reportEnding, v => v.toText?.map .text
  | timeoutSeconds, v | maxFileMegabytes, v | pageSize, v => v.toCount?.map .count
  | statusRefresh, v => v.toBool?.map .flag

/-- A table is no value of a setting. -/
theorem convert?_table (k : Setting) : k.convert? .table = none := by
  cases k <;> rfl

/-- What holds of every setting holds of the seven. -/
theorem forall_iff {p : Setting → Prop} :
    (∀ k, p k) ↔ p baseUrl ∧ p timeoutSeconds ∧ p statusRefresh ∧ p maxFileMegabytes ∧
      p pageSize ∧ p downloadDir ∧ p reportEnding := by
  constructor
  · exact fun h => ⟨h _, h _, h _, h _, h _, h _, h _⟩
  · rintro ⟨_, _, _, _, _, _, _⟩ k
    cases k <;> assumption

/-- No setting stands below another. -/
theorem eq_of_place_prefix {k k' : Setting} (h : k.place <+: k'.place) : k = k' := by
  revert h
  cases k <;> cases k' <;> decide

/-- The name of a setting's variable, in any case, spells the place of the setting. -/
theorem place?_of_lower_eq {k : Setting} {name : String}
    (h : Text.lower name.toList = Text.lower k.variableName.toList) :
    Variables.place? name = some k.place := by
  rw [Variables.place?_eq_of_lower_eq h]
  cases k <;> decide +kernel

/-- The number of a setting in its section. -/
def index : Setting → Nat
  | baseUrl | statusRefresh | pageSize => 0
  | timeoutSeconds | maxFileMegabytes | downloadDir => 1
  | reportEnding => 2

/-- What is read for a setting: the value at its place, or the one with its number if its section is
a list. -/
def read? (k : Setting) (l : List Assignment) : Option SettingValue :=
  match Assignment.valueAt? l (k.place.take 1) with
  | some (.list items) => items[k.index]?.bind k.convert?
  | _ => (Assignment.valueAt? l k.place).bind k.convert?

/-- What is read for a setting is its value as what the setting holds. -/
theorem read?_eq {α : Type} {k : Setting} {sectionName name : String}
    (hk : k.place = [sectionName, name]) {convert? : RawValue → Option α} {hold : α → SettingValue}
    (hconvert : ∀ v, k.convert? v = (convert? v).map hold) (l : List Assignment) :
    k.read? l = (Settings.valueOf l convert? sectionName k.index name).map hold := by
  have hmap (found : Option RawValue) :
      found.bind k.convert? = (found.bind convert?).map hold := by
    rw [Option.map_bind]
    congr 1
    funext v
    exact hconvert v
  unfold read? Settings.valueOf
  rw [hk, List.take_succ_cons, List.take_zero]
  cases Assignment.valueAt? l [sectionName] with
  | none => exact hmap _
  | some v => cases v <;> exact hmap _

end Setting

/-- What is said of the settings: the variables of the environment, those that the file of variables
gives, and the assignments of the file of settings. -/
structure Sources where
  environment : Variables
  entries : Variables
  file : List Assignment

namespace Sources

/-- The variables that the file of variables adds to those of the environment. -/
def added (sources : Sources) : Variables :=
  sources.entries.filter fun e => (sources.environment.get? e.1).isNone

/-- What is said of a setting by the file of settings or else built in. -/
def base? (sources : Sources) (k : Setting) : Option RawValue :=
  (Assignment.told? sources.file k.place).or
    (Assignment.told? Settings.builtIn.assignments k.place)

/-- The value that is chosen for a setting: of the layers that say something of it, the first. -/
def chosen? (sources : Sources) (k : Setting) : Option RawValue :=
  (sources.added.told? k.place).or ((sources.environment.told? k.place).or (sources.base? k))

/-- Sources that give settings one by one. The file of variables does not name a variable twice, no
variable stands for a whole section or for something below a setting, and the file of settings has
tables for sections. -/
structure WellFormed (sources : Sources) : Prop where
  distinct : (sources.entries.map (·.1)).Nodup
  separate : ∀ k : Setting, Variables.Separate (sources.environment ++ sources.entries) k.place
  sections : ∀ a ∈ sources.file, ∀ k : Setting,
    a.place <+: k.place → a.place ≠ k.place → a.value.isTable = true

/-- Variables that give nothing but settings stand for nothing above them or below them. -/
theorem separate_of_spelled {vars : Variables}
    (h : ∀ e ∈ vars, ∃ k : Setting, Variables.place? e.1 = some k.place) (k : Setting) :
    vars.Separate k.place := by
  intro e he found hfound hnear
  obtain ⟨k', hk'⟩ := h e he
  rw [hfound, Option.some.injEq] at hk'
  subst hk'
  rcases hnear with hnear | hnear
  · rw [Setting.eq_of_place_prefix hnear]
  · rw [Setting.eq_of_place_prefix hnear]

/-- Two groups of sources say the same of a setting, layer by layer. -/
structure AgreeOn (k : Setting) (sources other : Sources) : Prop where
  environment : sources.environment.spelling k.place = other.environment.spelling k.place
  entries : sources.entries.spelling k.place = other.entries.spelling k.place
  file : sources.file.filter (·.touches k.place) = other.file.filter (·.touches k.place)

/-- All variables, those of the environment and then those that are added. -/
def merged (sources : Sources) : Variables :=
  sources.environment ++ sources.added

/-- All assignments, the layer that is asked last in front. -/
def assignments (sources : Sources) : List Assignment :=
  Settings.builtIn.assignments ++ sources.file ++ sources.merged.assignments

variable {sources other : Sources} {k : Setting}

/-- Variables that are added are given by the file of variables. -/
theorem mem_of_mem_merged {e : String × String} (h : e ∈ sources.merged) :
    e ∈ sources.environment ++ sources.entries := by
  rcases List.mem_append.1 h with h | h
  · exact List.mem_append_left _ h
  · exact List.mem_append_right _ (List.mem_filter.1 h).1

/-- What all assignments say of a setting is what is chosen for it. -/
theorem WellFormed.told?_assignments (h : sources.WellFormed) (k : Setting) :
    Assignment.told? sources.assignments k.place = sources.chosen? k := by
  have hmerged : Assignment.told? sources.merged.assignments k.place =
      sources.merged.told? k.place :=
    Variables.told?_assignments fun e he => h.separate k e (mem_of_mem_merged he)
  rw [assignments, Assignment.told?_append, Assignment.told?_append, hmerged, merged,
    Variables.told?_append, Option.or_assoc, chosen?, base?]

/-- Where a section stands there is a table or nothing. -/
theorem WellFormed.section_eq_table (h : sources.WellFormed) {sectionName name : String}
    (hk : k.place = [sectionName, name]) {v : RawValue}
    (hv : Assignment.valueAt? sources.assignments [sectionName] = some v) : v = .table := by
  have hbelow : [sectionName] <+: k.place := hk ▸ ⟨[name], rfl⟩
  have hne : [sectionName] ≠ k.place := by simp [hk]
  refine Assignment.valueAt?_of_tables (fun a ha hplace => ?_) hv
  rcases List.mem_append.1 ha with ha | ha
  · rcases List.mem_append.1 ha with ha | ha
    · simp only [Settings.assignments, List.mem_cons, List.not_mem_nil, or_false] at ha
      rcases ha with rfl | rfl | rfl | rfl | rfl | rfl | rfl <;> simp at hplace
    · exact h.sections a ha k (hplace ▸ hbelow) (hplace ▸ hne)
  · obtain ⟨e, he, hassign⟩ := List.mem_filterMap.1 ha
    rw [Variables.assignment?_eq] at hassign
    obtain ⟨found, hfound, rfl⟩ := Option.map_eq_some_iff.1 hassign
    have hfound : Variables.place? e.1 = some [sectionName] := hplace ▸ hfound
    exact absurd (h.separate k e (mem_of_mem_merged he) _ hfound (.inl hbelow)) hne

/-- What is read for a setting is what is chosen for it. -/
theorem WellFormed.read?_assignments (h : sources.WellFormed) (k : Setting) :
    k.read? sources.assignments = (sources.chosen? k).bind k.convert? := by
  obtain ⟨sectionName, name, hk⟩ := k.exists_place
  unfold Setting.read?
  rw [hk, List.take_succ_cons, List.take_zero]
  split
  · next hlist => cases h.section_eq_table hk hlist
  · rw [← hk, Assignment.valueAt?_bind k.convert?_table, h.told?_assignments]

/-- The variables that are added for a setting are those that the file of variables gives for it and
that the environment does not set by the same name. -/
theorem spelling_added (sources : Sources) (k : Setting) :
    sources.added.spelling k.place = (sources.entries.spelling k.place).filter fun e =>
      ((sources.environment.spelling k.place).get? e.1).isNone := by
  rw [added, Variables.spelling_filter]
  refine List.filter_congr fun e he => ?_
  rw [Variables.isNone_get?_spelling (Variables.place?_of_mem_spelling he)]

/-- What is chosen for a setting depends on nothing but what the layers say of this setting. -/
theorem AgreeOn.chosen?_eq (h : AgreeOn k sources other) :
    sources.chosen? k = other.chosen? k := by
  have hadded : sources.added.told? k.place = other.added.told? k.place := by
    rw [Variables.told?, spelling_added, h.environment, h.entries, ← spelling_added,
      Variables.told?]
  have henvironment : sources.environment.told? k.place = other.environment.told? k.place := by
    rw [Variables.told?, h.environment, Variables.told?]
  have hfile : Assignment.told? sources.file k.place = Assignment.told? other.file k.place := by
    rw [Assignment.told?, h.file, Assignment.told?]
  rw [chosen?, chosen?, base?, base?, hadded, henvironment, hfile]

/-- Of a setting that the environment does not give, all that the file of variables gives is added. -/
theorem told?_added_of_eq_none (h : sources.environment.told? k.place = none) :
    sources.added.told? k.place = sources.entries.told? k.place := by
  have hempty : sources.environment.spelling k.place = [] :=
    List.filter_eq_nil_iff.2 fun d hd => by simpa using Variables.told?_eq_none_iff.1 h d hd
  have hfree : ∀ e ∈ sources.entries.spelling k.place, (Variables.get? [] e.1).isNone = true :=
    fun _ _ => rfl
  rw [Variables.told?, spelling_added, hempty, List.filter_eq_self.2 hfree, Variables.told?]

/-- The environment is asked first of a setting that no name in the file of variables gives
otherwise than the environment itself does. -/
theorem chosen?_eq_environment_or (sources : Sources) {k : Setting}
    (h : ∀ e ∈ sources.entries, ∀ d ∈ sources.environment,
      Variables.place? e.1 = some k.place → Variables.place? d.1 = some k.place →
        (sources.environment.get? e.1).isSome) :
    sources.chosen? k = (sources.environment.told? k.place).or
      ((sources.entries.told? k.place).or (sources.base? k)) := by
  cases hsaid : sources.environment.told? k.place with
  | none => rw [chosen?, hsaid, told?_added_of_eq_none hsaid, Option.none_or, Option.none_or]
  | some v =>
    have hadded : sources.added.told? k.place = none := by
      -- Were an entry added, no variable of the environment would give the setting.
      refine Variables.told?_eq_none_iff.2 fun e he hplace => ?_
      obtain ⟨hentry, hfree⟩ := List.mem_filter.1 he
      have hnone : sources.environment.told? k.place = none := by
        refine Variables.told?_eq_none_iff.2 fun d hd hdplace => ?_
        have htaken := h e hentry d hd hplace hdplace
        rw [Option.isNone_iff_eq_none.1 hfree] at htaken
        cases htaken
      rw [hsaid] at hnone
      cases hnone
    rw [chosen?, hadded, hsaid, Option.none_or, Option.some_or, Option.some_or]

end Sources

namespace Settings

/-- The value of a setting. -/
def get (s : Settings) : Setting → SettingValue
  | .baseUrl => .text s.service.baseUrl
  | .timeoutSeconds => .count s.service.timeoutSeconds
  | .statusRefresh => .flag s.run.statusRefresh
  | .maxFileMegabytes => .count s.run.maxFileMegabytes
  | .pageSize => .count s.view.pageSize
  | .downloadDir => .text s.view.downloadDir
  | .reportEnding => .text s.view.reportEnding

/-- Settings make sense: the address begins with a scheme that is spoken, and neither the time limit
nor the page size is zero. -/
structure Sensible (s : Settings) : Prop where
  scheme : "http://".toList <+: s.service.baseUrl.toList ∨
    "https://".toList <+: s.service.baseUrl.toList
  timeout : s.service.timeoutSeconds ≠ 0
  page : s.view.pageSize ≠ 0

/-- Settings are accepted exactly if they make sense. -/
theorem check_eq_ok_iff {s t : Settings} : s.check = .ok t ↔ t = s ∧ s.Sensible := by
  constructor
  · intro h
    refine ⟨eq_of_check h, ?_⟩
    unfold check at h
    split at h
    · cases h
    · next hurl =>
      split at h
      · cases h
      · next htimeout =>
        split at h
        · cases h
        · next hpage =>
          have hscheme := BaseUrl.check_eq_ok_iff.1 hurl
          exact ⟨by simpa [BaseUrl.hasScheme] using hscheme, htimeout, hpage⟩
  · rintro ⟨rfl, hscheme, htimeout, hpage⟩
    have hurl : BaseUrl.check t.service.baseUrl = .ok () :=
      BaseUrl.check_eq_ok_iff.2 (by simpa [BaseUrl.hasScheme] using hscheme)
    simp [check, hurl, htimeout, hpage]

/-- Assignments spell the settings that hold, one by one, what is read for them. -/
theorem ofAssignments?_eq_some_iff_read? {l : List Assignment} {s : Settings} :
    ofAssignments? l = some s ↔ ∀ k : Setting, k.read? l = some (s.get k) := by
  rw [Setting.forall_iff, Setting.read?_eq (k := .baseUrl) rfl (fun _ => rfl),
    Setting.read?_eq (k := .timeoutSeconds) rfl (fun _ => rfl),
    Setting.read?_eq (k := .statusRefresh) rfl (fun _ => rfl),
    Setting.read?_eq (k := .maxFileMegabytes) rfl (fun _ => rfl),
    Setting.read?_eq (k := .pageSize) rfl (fun _ => rfl),
    Setting.read?_eq (k := .downloadDir) rfl (fun _ => rfl),
    Setting.read?_eq (k := .reportEnding) rfl (fun _ => rfl)]
  simp only [ofAssignments?, get, Option.bind_eq_bind, Option.bind_eq_some_iff, Option.pure_def,
    Option.some.injEq, Option.map_eq_some_iff, SettingValue.text.injEq, SettingValue.count.injEq,
    SettingValue.flag.injEq, exists_eq_right]
  constructor
  · rintro ⟨_, h₁, _, h₂, _, h₃, _, h₄, _, h₅, _, h₆, _, h₇, rfl⟩
    exact ⟨h₁, h₂, h₃, h₄, h₅, h₆, h₇⟩
  · rintro ⟨h₁, h₂, h₃, h₄, h₅, h₆, h₇⟩
    exact ⟨_, h₁, _, h₂, _, h₃, _, h₄, _, h₅, _, h₆, _, h₇, rfl⟩

/-- The settings that sources spell hold, one by one, what is chosen for them. -/
theorem ofAssignments?_eq_some_iff {sources : Sources} (h : sources.WellFormed) {s : Settings} :
    ofAssignments? sources.assignments = some s ↔
      ∀ k, (sources.chosen? k).bind k.convert? = some (s.get k) := by
  rw [ofAssignments?_eq_some_iff_read?]
  exact forall_congr' fun k => by rw [h.read?_assignments]

/-- What is built in for a setting converts to what the built-in settings hold. -/
theorem told?_builtIn_bind (k : Setting) :
    (Assignment.told? builtIn.assignments k.place).bind k.convert? = some (builtIn.get k) := by
  cases k <;> decide +kernel

/-- The variables that the file of variables gives. -/
def variableEntries (vars : Variables) (tree : FileTree) (cwd : Location) : Variables :=
  match variableFile? tree cwd with
  | some bytes =>
    VariableFile.given vars
      (VariableFile.entries [] .complete (VariableFile.lines (VariableFile.withoutMark bytes)))
  | none => []

/-- What is said of the settings where the file of settings makes assignments. -/
def sourcesAt (vars : Variables) (tree : FileTree) (cwd : Location) (file : List Assignment) :
    Sources :=
  ⟨vars, variableEntries vars tree cwd, file⟩

variable {vars : Variables} {tree : FileTree} {cwd : Location} {path : Option Path}
  {file : List Assignment}

/-- The file of variables adds what it gives under names that are not taken. -/
theorem allVariables_eq_merged (h : (sourcesAt vars tree cwd file).WellFormed) :
    allVariables vars tree cwd = (sourcesAt vars tree cwd file).merged := by
  have hdistinct : ((variableEntries vars tree cwd).map (·.1)).Nodup := h.distinct
  rw [Sources.merged, Sources.added, sourcesAt, ← Variables.foldl_addMissing hdistinct,
    variableEntries, allVariables]
  cases variableFile? tree cwd with
  | none => rfl
  | some bytes => exact VariableFile.load_eq_foldl vars _

/-- Settings are loaded exactly if they hold what is chosen for them and make sense. -/
theorem load_eq_ok_iff (hfile : fileAssignments tree cwd path = .ok file)
    (hwell : (sourcesAt vars tree cwd file).WellFormed) {s : Settings} :
    load vars tree cwd path = .ok s ↔
      (∀ k, ((sourcesAt vars tree cwd file).chosen? k).bind k.convert? = some (s.get k)) ∧
        s.Sensible := by
  have hassignments : builtIn.assignments ++ file ++ (allVariables vars tree cwd).assignments =
      (sourcesAt vars tree cwd file).assignments := by
    rw [allVariables_eq_merged hwell]
    rfl
  rw [← ofAssignments?_eq_some_iff hwell, load, hfile]
  dsimp only
  rw [hassignments]
  cases ofAssignments? (sourcesAt vars tree cwd file).assignments with
  | none => simp
  | some t =>
    rw [Option.some.injEq]
    constructor
    · intro h
      obtain ⟨rfl, hsensible⟩ := check_eq_ok_iff.1 h
      exact ⟨rfl, hsensible⟩
    · rintro ⟨rfl, hsensible⟩
      exact check_eq_ok_iff.2 ⟨rfl, hsensible⟩

/-- A client takes the address of settings that make sense. -/
theorem Sensible.exists_client {s : Settings} (h : s.Sensible) :
    ∃ client, Client.ofAddress s.service.baseUrl = .ok client := by
  have hscheme : BaseUrl.hasScheme s.service.baseUrl = true := by
    simpa [BaseUrl.hasScheme] using h.scheme
  exact ⟨⟨BaseUrl.trim s.service.baseUrl⟩, by
    rw [Client.ofAddress, BaseUrl.check_eq_ok_iff.2 hscheme]⟩

/-- The settings come in layers, each setting by itself. Where the file of settings can be read,
settings are loaded exactly if each of them holds what the value that is chosen for it converts to
and they make sense; a client takes the address of all that are loaded. What is chosen is what the
file of variables adds, or else what the environment says, then the file of settings, then what is
built in; the environment comes first for a setting that no name in the file of variables gives
otherwise than the environment does. Sources that say the same of one setting, whatever they say of
the others, give it the same value. -/
theorem load_by_layers (hfile : fileAssignments tree cwd path = .ok file)
    (hwell : (sourcesAt vars tree cwd file).WellFormed) :
    (∀ s, load vars tree cwd path = .ok s ↔
      (∀ k, ((sourcesAt vars tree cwd file).chosen? k).bind k.convert? = some (s.get k)) ∧
        s.Sensible) ∧
    (∀ s, load vars tree cwd path = .ok s →
      ∃ client, Client.ofAddress s.service.baseUrl = .ok client) ∧
    (∀ (k : Setting) (name : String),
      Text.lower name.toList = Text.lower k.variableName.toList →
        Variables.place? name = some k.place) ∧
    (∀ k : Setting,
      (∀ e ∈ variableEntries vars tree cwd, ∀ d ∈ vars, Variables.place? e.1 = some k.place →
        Variables.place? d.1 = some k.place → (vars.get? e.1).isSome) →
      (sourcesAt vars tree cwd file).chosen? k =
        (vars.told? k.place).or (((variableEntries vars tree cwd).told? k.place).or
          ((Assignment.told? file k.place).or
            (Assignment.told? builtIn.assignments k.place)))) ∧
    (∀ k : Setting,
      (Assignment.told? builtIn.assignments k.place).bind k.convert? = some (builtIn.get k)) ∧
    ∀ vars' tree' cwd' path' file', fileAssignments tree' cwd' path' = .ok file' →
      (sourcesAt vars' tree' cwd' file').WellFormed →
      ∀ k, Sources.AgreeOn k (sourcesAt vars tree cwd file) (sourcesAt vars' tree' cwd' file') →
      ∀ s s', load vars tree cwd path = .ok s → load vars' tree' cwd' path' = .ok s' →
        s'.get k = s.get k := by
  refine ⟨fun s => load_eq_ok_iff hfile hwell, fun s hs => ?_,
    fun k name hname => Setting.place?_of_lower_eq hname, fun k hk => ?_,
    told?_builtIn_bind, ?_⟩
  · exact ((load_eq_ok_iff hfile hwell).1 hs).2.exists_client
  · exact (sourcesAt vars tree cwd file).chosen?_eq_environment_or hk
  · intro vars' tree' cwd' path' file' hfile' hwell' k hagree s s' hs hs'
    have hchosen := ((load_eq_ok_iff hfile hwell).1 hs).1 k
    have hchosen' := ((load_eq_ok_iff hfile' hwell').1 hs').1 k
    rw [hagree.chosen?_eq, hchosen'] at hchosen
    exact Option.some.inj hchosen

/-- Each of the four layers decides a setting, and the environment prevails over the file of
variables where both name one. -/
theorem load_by_layers_of_four :
    let vars := [("CSV_PIPELINE__VIEW__PAGE_SIZE", "5")]
    let tree : FileTree :=
      ⟨[([Bytes.utf8 ".env"], .file (Bytes.utf8
          "CSV_PIPELINE__VIEW__PAGE_SIZE=7\nCSV_PIPELINE__GATEWAY__TIMEOUT_SECS=60\n")),
        ([Bytes.utf8 "config"], .directory),
        ([Bytes.utf8 "config", Bytes.utf8 "default.toml"], .file (Bytes.utf8
          "[gateway]\nbase_url = \"https://x\"\ntimeout_secs = 5\n"))]⟩
    let s : Settings := ⟨⟨"https://x", 60⟩, ⟨true, 10⟩, ⟨5, "./downloads", "_report"⟩⟩
    ∃ file, fileAssignments tree [] none = .ok file ∧ (sourcesAt vars tree [] file).WellFormed ∧
      load vars tree [] none = .ok s ∧
      ∀ k, ((sourcesAt vars tree [] file).chosen? k).bind k.convert? = some (s.get k) := by
  intro vars tree s
  have hsections : ∃ file, fileAssignments tree [] none = .ok file ∧
      file.all fun a => a.place.length = 2 || a.value.isTable := by
    have hall : (fileAssignments tree [] none).toOption.any
        (·.all fun a => a.place.length = 2 || a.value.isTable) = true := by
      decide +kernel
    cases hfile : fileAssignments tree [] none with
    | error f => simp [hfile, Except.toOption] at hall
    | ok file => exact ⟨file, rfl, by simpa [hfile, Except.toOption] using hall⟩
  obtain ⟨file, hfile, htables⟩ := hsections
  have hentries : variableEntries vars tree [] = [("CSV_PIPELINE__VIEW__PAGE_SIZE", "7"),
      ("CSV_PIPELINE__GATEWAY__TIMEOUT_SECS", "60")] := by
    decide +kernel
  have hwell : (sourcesAt vars tree [] file).WellFormed := by
    rw [sourcesAt, hentries]
    refine ⟨by simp, Sources.separate_of_spelled ?_, fun a ha k hbelow hne => ?_⟩
    · simp only [vars, List.cons_append, List.nil_append, List.forall_mem_cons]
      have hpage : ∃ k : Setting,
          Variables.place? "CSV_PIPELINE__VIEW__PAGE_SIZE" = some k.place :=
        ⟨.pageSize, Setting.place?_of_lower_eq rfl⟩
      exact ⟨hpage, hpage, ⟨.timeoutSeconds, Setting.place?_of_lower_eq rfl⟩, by simp⟩
    · have ha : a.place.length = 2 ∨ a.value.isTable = true := by
        simpa using List.all_eq_true.1 htables a ha
      exact ha.resolve_left fun hlength =>
        hne (hbelow.eq_of_length (hlength.trans k.length_place.symm))
  have hload : load vars tree [] none = .ok s := by
    decide +kernel
  exact ⟨file, hfile, hwell, hload, (((load_by_layers hfile hwell).1 s).1 hload).1⟩

/-- A variable of the environment gives way to the file of variables if the two spell its name in
different case: the name is not taken, so the variable is added and comes later. -/
theorem variable_file_overrides_environment :
    let vars := [("csv_pipeline__view__page_size", "5")]
    let tree : FileTree :=
      ⟨[([Bytes.utf8 ".env"], .file (Bytes.utf8 "CSV_PIPELINE__VIEW__PAGE_SIZE=7\n"))]⟩
    fileAssignments tree [] none = .ok [] ∧ (sourcesAt vars tree [] []).WellFormed ∧
      Variables.place? "csv_pipeline__view__page_size" = some Setting.pageSize.place ∧
      load vars tree [] none =
        .ok { builtIn with view := { builtIn.view with pageSize := 7 } } := by
  intro vars tree
  have hfind : find? tree [] defaultPath = none := by
    decide +kernel
  have hentries : variableEntries vars tree [] = [("CSV_PIPELINE__VIEW__PAGE_SIZE", "7")] := by
    decide +kernel
  have hplace : Variables.place? "csv_pipeline__view__page_size" = some Setting.pageSize.place :=
    Setting.place?_of_lower_eq (by decide +kernel)
  have hwell : (sourcesAt vars tree [] []).WellFormed := by
    rw [sourcesAt, hentries]
    refine ⟨by simp, Sources.separate_of_spelled ?_, fun a ha => absurd ha List.not_mem_nil⟩
    simp only [vars, List.cons_append, List.nil_append, List.forall_mem_cons]
    exact ⟨⟨.pageSize, hplace⟩, ⟨.pageSize, Setting.place?_of_lower_eq rfl⟩, by simp⟩
  exact ⟨by simp [fileAssignments, hfind], hwell, hplace, by decide +kernel⟩

end Settings

end CsvCleaning
