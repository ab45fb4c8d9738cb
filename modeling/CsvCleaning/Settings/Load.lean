import CsvCleaning.Files.SourceFile
import CsvCleaning.Json.Document
import CsvCleaning.Settings.Basic
import CsvCleaning.Settings.VariableFile
import CsvCleaning.Toml.Document

/-!
# Where settings come from

The built-in settings come first, then a file, then the variables, those of the environment and
those that a file `.env` adds to them. For each setting the last of these that names it decides.
-/

namespace CsvCleaning

/-- The forms in which a file may spell settings. -/
inductive SettingsForm where
  | toml
  | json
deriving DecidableEq, Repr

namespace SettingsForm

/-- The extension of files of a form. -/
def extension : SettingsForm → String
  | toml => ".toml"
  | json => ".json"

/-- The form that an extension tells. -/
def ofExtension? (ext : String) : Option SettingsForm :=
  [toml, json].find? (·.extension == ext)

/-- The assignments of a text in a form, before its first names have been spelled out. -/
def read? (text : String) : SettingsForm → Option (List Assignment)
  | toml => Toml.read? text
  | json =>
    match Json.parse (Bytes.utf8 text) with
    | .ok (.object members) => some (Assignment.ofJson [] (.object members))
    | _ => none

end SettingsForm

namespace Settings

/-- The form of the file that a path leads to, and its bytes; none if there is no such file, or if
its extension tells no form. -/
def fileAt? (tree : FileTree) (cwd : Location) (path : Path) : Option (SettingsForm × Bytes) :=
  match tree.read cwd path, (path.fileName?.bind Bytes.readUtf8?).bind FileName.extension? with
  | .ok bytes, some ext => (SettingsForm.ofExtension? ext).map (·, bytes)
  | _, _ => none

/-- Decide whether a path leads to a file. -/
def isFile (tree : FileTree) (cwd : Location) (path : Path) : Bool :=
  match tree.stat cwd path with
  | .ok (.file _) => true
  | _ => false

/-- The file that a path leads to, or else the one with the extension of a form added. -/
def find? (tree : FileTree) (cwd : Location) (path : Path) : Option (SettingsForm × Bytes) :=
  if isFile tree cwd path then fileAt? tree cwd path
  else
    [SettingsForm.toml, SettingsForm.json].findSome? fun form =>
      let extended := path ++ Bytes.utf8 form.extension
      if isFile tree cwd extended then fileAt? tree cwd extended else none

/-- Where the settings are looked for when no path is given; they need not be there. -/
def defaultPath : Path :=
  Path.ofText "config/default.toml"

/-- The assignments of a file of settings. -/
def fileAssignments (tree : FileTree) (cwd : Location) (path : Option Path) :
    Except SettingsFault (List Assignment) :=
  match find? tree cwd (path.getD defaultPath) with
  | none => if path.isSome then .error .unreadable else .ok []
  | some (form, bytes) =>
    match form.read? (VariableFile.withoutMark bytes).readUtf8Lossy with
    | some assignments => .ok (assignments.map Assignment.expandKey)
    | none => .error .unreadable

/-- The name of the file that adds variables. -/
def variableFileName : Bytes :=
  Bytes.utf8 ".env"

/-- The file of variables: the one in the working directory or else in the nearest directory above
it. -/
def variableFile? (tree : FileTree) (cwd : Location) : Option Bytes :=
  (List.range (cwd.length + 1)).findSome? fun up =>
    match tree.node? (cwd.take (cwd.length - up) ++ [variableFileName]) with
    | some (.file bytes) => some bytes
    | _ => none

/-- The variables of the environment and those that the file of variables adds. -/
def allVariables (vars : Variables) (tree : FileTree) (cwd : Location) : Variables :=
  match variableFile? tree cwd with
  | some bytes => VariableFile.read vars bytes
  | none => vars

/-- Load the settings from their sources. -/
def load (vars : Variables) (tree : FileTree) (cwd : Location) (path : Option Path) :
    Except SettingsFault Settings :=
  match fileAssignments tree cwd path with
  | .error f => .error f
  | .ok file =>
    match ofAssignments?
      (builtIn.assignments ++ file ++ (allVariables vars tree cwd).assignments) with
    | some s => s.check
    | none => .error .unusable

end Settings

end CsvCleaning
