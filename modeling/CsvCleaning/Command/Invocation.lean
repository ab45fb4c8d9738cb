import CsvCleaning.Command.Arguments
import CsvCleaning.Settings.Load

/-!
# What the user asks for

Options for all commands come first, then the name of a command with its own arguments. The address
of the service may also come from the variable `CSVPIPE_API_URL`.
-/

namespace CsvCleaning

/-- A command. -/
inductive Command where
  /-- See how the service is. -/
  | health
  /-- Take a file through a run and show its result. -/
  | run (file : Path) (search : Option String) (page : Nat) (download : Bool) (retries : Nat)
  /-- Show how far a file has come. -/
  | status (fileId : String)
  /-- Show the result of a file. -/
  | result (fileId : String) (search : Option String) (page : Nat)
  /-- Save the cleaned file. -/
  | download (fileId : String) (output : Option Path)
  /-- Show or save the script that cleans a file. -/
  | script (fileId : String) (output : Option Path)
deriving DecidableEq, Repr

/-- A command with the options for all commands. -/
structure Invocation where
  settingsPath : Path
  color : Bool
  verbose : Bool
  address : Option String
  command : Command
deriving DecidableEq, Repr

/-- The version of this program. -/
def version : String :=
  "0.1.0"

namespace Refusal

/-- How the program is used, line by line. -/
def usage : List String :=
  ["Upload a CSV file, let an LLM clean it and inspect the result",
    "",
    "Usage: csvpipe [OPTIONS] <COMMAND>",
    "",
    "Commands:",
    "  health               Check that the backend answers",
    "  run <FILE>           Take a CSV file through a run and show its result",
    "  status <FILE_ID>     Show the progress of a file",
    "  result <FILE_ID>     Show the cleaned rows of a finished file",
    "  download <FILE_ID>   Save the cleaned CSV of a finished file",
    "  script <FILE_ID>     Print or save the cleaning script",
    "",
    "Options:",
    "  -c, --config <FILE>  The settings [default: config/default.toml]",
    "  --color <COLOR>      Whether to write in colour, true or false",
    "  -v, --verbose        Say more",
    "  --api-url <URL>      The base URL of the backend [env: CSVPIPE_API_URL]",
    "  -h, --help           Print help",
    "  -V, --version        Print version"]

/-- What is written in place of carrying anything out. -/
def output : Refusal → String
  | misuse => ""
  | help => String.join (usage.map (· ++ "\n"))
  | version => "csvpipe " ++ CsvCleaning.version ++ "\n"

/-- The code with which the program ends. -/
def code : Refusal → Nat
  | misuse => 2
  | help | version => 0

end Refusal

namespace Invocation

/-- Decide whether a value is a path. -/
def isPath (s : String) : Bool :=
  s != ""

/-- Decide whether a value is a yes or no. -/
def isTruth (s : String) : Bool :=
  s == "true" || s == "false"

/-- The page that a value asks for. -/
def page? (s : String) : Option Nat :=
  RawValue.writtenCount? s

/-- The greatest number of retries. -/
def maxRetries : Nat :=
  Nat.pow 2 32 - 1

/-- The number of retries that a value asks for. -/
def retries? (s : String) : Option Nat :=
  (wholeNumber? 0 maxRetries s.toList).map Int.toNat

/-- The options for all commands. -/
def common : ArgumentForm where
  options := [⟨"config", some 'c', some isPath⟩, ⟨"color", none, some isTruth⟩,
    ⟨"verbose", some 'v', none⟩, ⟨"api-url", none, some fun _ => true⟩]
  others := 0
  other := fun _ => false
  hasVersion := true

/-- A term to search for. -/
def searchOption : OptionForm :=
  ⟨"search", some 's', some fun _ => true⟩

/-- A page to show. -/
def pageOption : OptionForm :=
  ⟨"page", some 'p', some fun s => (page? s).isSome⟩

/-- A path to write to. -/
def outputOption : OptionForm :=
  ⟨"output", some 'o', some isPath⟩

/-- The arguments of a command about one file id. -/
def aboutFileId (options : List OptionForm) : ArgumentForm :=
  ⟨options, 1, fun _ => true, false⟩

/-- The arguments of a command. -/
def form? : String → Option ArgumentForm
  | "health" => some ⟨[], 0, fun _ => false, false⟩
  | "run" => some
    ⟨[searchOption, pageOption, ⟨"download", none, none⟩,
      ⟨"retries", none, some fun s => (retries? s).isSome⟩], 1, isPath, false⟩
  | "status" => some (aboutFileId [])
  | "result" => some (aboutFileId [searchOption, pageOption])
  | "download" | "script" => some (aboutFileId [outputOption])
  | _ => none

/-- The page that was asked for, the first if none was. -/
def pageOf (given : Arguments) : Nat :=
  ((given.value? "page").bind page?).getD 1

/-- The path to write to, if one was given. -/
def outputOf (given : Arguments) : Option Path :=
  (given.value? "output").map Path.ofText

/-- The command of a name with its arguments. -/
def command? (name : String) (given : Arguments) : Option Command :=
  match name, given.others with
  | "health", [] => some .health
  | "run", [file] => some (.run (Path.ofText file) (given.value? "search") (pageOf given)
    (given.has "download") (((given.value? "retries").bind retries?).getD 0))
  | "status", [fileId] => some (.status fileId)
  | "result", [fileId] => some (.result fileId (given.value? "search") (pageOf given))
  | "download", [fileId] => some (.download fileId (outputOf given))
  | "script", [fileId] => some (.script fileId (outputOf given))
  | _, _ => none

/-- The answer to a question for help, about one command or all. -/
def helpOn : List String → Refusal
  | [] => .help
  | [name] => if name = "help" ∨ (form? name).isSome then .help else .misuse
  | _ => .misuse

/-- Read the name of a command and its arguments. -/
def readCommand : List String → Except Refusal Command
  | [] => .error .misuse
  | name :: args =>
    if name = "help" then .error (helpOn args)
    else
      match form? name with
      | none => .error .misuse
      | some form =>
        match Arguments.readFrom form true .none args with
        | .error r => .error r
        | .ok (given, _) =>
          match command? name given with
          | some c => .ok c
          | none => .error .misuse

/-- Read what the user asks for. -/
def read (vars : Variables) (args : List String) : Except Refusal Invocation :=
  match Arguments.readFrom common false .none args with
  | .error r => .error r
  | .ok (given, rest) =>
    match readCommand rest with
    | .error r => .error r
    | .ok command =>
      .ok
        { settingsPath := ((given.value? "config").map Path.ofText).getD Settings.defaultPath
          color := given.value? "color" != some "false"
          verbose := given.has "verbose"
          address := (given.value? "api-url").or (vars.get? "CSVPIPE_API_URL")
          command }

end Invocation

end CsvCleaning
