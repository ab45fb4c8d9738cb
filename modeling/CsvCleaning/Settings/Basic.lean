import CsvCleaning.ByteSize
import CsvCleaning.Service.BaseUrl
import CsvCleaning.Settings.Assignment

/-!
# Settings

Seven settings in three sections say which service is used, how a run goes and how its result is
shown. They have to make sense together with nothing but themselves: the address has to be one, and
neither the time limit nor the page size may be zero.
-/

namespace CsvCleaning

/-- Which service is used, and how long each of its answers may take. -/
structure ServiceSettings where
  baseUrl : String
  timeoutSeconds : Nat
deriving DecidableEq, Repr

/-- How a run goes. A greatest size of zero is no limit. -/
structure RunSettings where
  statusRefresh : Bool
  maxFileMegabytes : Nat
deriving DecidableEq, Repr

/-- How a result is shown and saved. -/
structure ViewSettings where
  pageSize : Nat
  downloadDir : String
  reportEnding : String
deriving DecidableEq, Repr

/-- All settings. -/
structure Settings where
  service : ServiceSettings
  run : RunSettings
  view : ViewSettings
deriving DecidableEq, Repr

/-- Why settings cannot be used. -/
inductive SettingsFault where
  /-- The file of settings cannot be read. -/
  | unreadable
  /-- A setting has no value, or one that does not convert. -/
  | unusable
  /-- The settings make no sense. -/
  | refused (reason : String)
deriving DecidableEq, Repr

/-- The reason why settings cannot be used. For a file that cannot be read and for a value that is missing or
does not convert it is a general one: the texts of a reader of settings, which name the file or the value,
are not kept. -/
def SettingsFault.reason : SettingsFault → String
  | unreadable => "the configuration file cannot be read"
  | unusable => "a configuration value is missing or has the wrong type"
  | refused reason => reason

/-- Unusable settings as a failure of an operation. -/
def SettingsFault.failure (f : SettingsFault) : Failure :=
  .config f.reason

namespace Settings

/-- The settings that hold where nothing else is said. -/
def builtIn : Settings where
  service := ⟨"http://localhost:8000", 30⟩
  run := ⟨true, 10⟩
  view := ⟨10, "./downloads", "_report"⟩

/-- The greatest size of a file in bytes. -/
def maxFileBytes (s : Settings) : Nat :=
  s.run.maxFileMegabytes * 1048576

/-- Refuse settings that make no sense: first a bad address, then a time limit of zero, then a page
size of zero. -/
def check (s : Settings) : Except SettingsFault Settings :=
  match BaseUrl.check s.service.baseUrl with
  | .error f => .error (.refused f.userMessage)
  | .ok () =>
    if s.service.timeoutSeconds = 0 then .error (.refused "timeout_secs must be greater than 0")
    else if s.view.pageSize = 0 then .error (.refused "page_size must be greater than 0")
    else .ok s

/-- The settings with another base address. -/
def withBaseUrl (s : Settings) (url : String) : Except SettingsFault Settings :=
  check { s with service := { s.service with baseUrl := url } }

/-- The value of a setting in a section, converted to what the setting holds. A section may also be
written as a list, which has its settings in order. -/
def valueOf {α : Type} (assignments : List Assignment) (convert? : RawValue → Option α)
    (sectionName : String) (index : Nat) (name : String) : Option α :=
  match Assignment.valueAt? assignments [sectionName] with
  | some (.list items) => items[index]?.bind convert?
  | _ => (Assignment.valueAt? assignments [sectionName, name]).bind convert?

/-- The settings that assignments spell, if every setting has a value that converts. -/
def ofAssignments? (assignments : List Assignment) : Option Settings := do
  let baseUrl ← valueOf assignments RawValue.toText? "gateway" 0 "base_url"
  let timeoutSeconds ← valueOf assignments RawValue.toCount? "gateway" 1 "timeout_secs"
  let statusRefresh ← valueOf assignments RawValue.toBool? "pipeline" 0 "status_refresh"
  let maxFileMegabytes ← valueOf assignments RawValue.toCount? "pipeline" 1 "max_file_size_mb"
  let pageSize ← valueOf assignments RawValue.toCount? "view" 0 "page_size"
  let downloadDir ← valueOf assignments RawValue.toText? "view" 1 "download_dir"
  let reportEnding ← valueOf assignments RawValue.toText? "view" 2 "report_suffix"
  return ⟨⟨baseUrl, timeoutSeconds⟩, ⟨statusRefresh, maxFileMegabytes⟩,
    ⟨pageSize, downloadDir, reportEnding⟩⟩

/-- The assignments that spell settings. -/
def assignments (s : Settings) : List Assignment :=
  [⟨["gateway", "base_url"], .text s.service.baseUrl⟩,
    ⟨["gateway", "timeout_secs"], .int s.service.timeoutSeconds⟩,
    ⟨["pipeline", "status_refresh"], .bool s.run.statusRefresh⟩,
    ⟨["pipeline", "max_file_size_mb"], .int s.run.maxFileMegabytes⟩,
    ⟨["view", "page_size"], .int s.view.pageSize⟩,
    ⟨["view", "download_dir"], .text s.view.downloadDir⟩,
    ⟨["view", "report_suffix"], .text s.view.reportEnding⟩]

/-- Settings are accepted as they are or not at all. -/
theorem eq_of_check {s t : Settings} (h : s.check = .ok t) : t = s := by
  unfold check at h
  split at h
  · cases h
  · split at h
    · cases h
    · split at h
      · cases h
      · exact (Except.ok.inj h).symm

/-- The built-in settings make sense. -/
theorem check_builtIn : builtIn.check = .ok builtIn := by
  cbv

/-- Assignments that spell the built-in settings are read as such. -/
theorem ofAssignments?_builtIn : ofAssignments? builtIn.assignments = some builtIn := by
  decide +kernel

end Settings

end CsvCleaning
