import CsvCleaning.Command.Effect
import CsvCleaning.Command.Invocation
import CsvCleaning.Http.Client
import CsvCleaning.Run.Persist
import CsvCleaning.Run.Selection
import CsvCleaning.Run.Timeline
import CsvCleaning.Table.Download

/-!
# Carrying out commands

A command finds its settings, makes a client of the service they name, and does its work with it.
-/

namespace CsvCleaning

/-- What a command is carried out with. -/
structure Workplace (ν : Type) where
  environment : Variables
  tree : FileTree
  cwd : Location
  network : Network ν
  /-- The text that parts the forms that are sent. -/
  boundary : String
  /-- The moment of the work, in seconds since the first of January 1970. -/
  now : Int
  /-- How many nanoseconds an answer takes. -/
  nanos : Nat

namespace Workplace

variable {ν : Type}

/-- See how the service is. -/
def seeHealth (w : Workplace ν) (gateway : Gateway ν) (s : ν) : Effect ν :=
  let (answer, s) := gateway .health s
  ⟨lineOf (healthReport answer w.nanos w.now).format, none, w.tree, s⟩

/-- What is told of a file's status, and of its script if there is one. -/
def statusEffect (w : Workplace ν) (color : Bool) (report : StatusReport)
    (script : Except Failure String) (s : ν) : Effect ν :=
  match Record.uploaded 0 report.fileId "" with
  | .error f => ⟨"", some (.ofFailure f), w.tree, s⟩
  | .ok record =>
    let record := record.mergeStatus report
    let phase := if record.flags.ready then .ready else .idle
    let scriptLine := match script with
      | .ok text => noticeLine .info color
        ("Cleaning script available (" ++ toString (lineCount text) ++ " lines)")
      | .error _ => ""
    ⟨progressText ⟨phase, some record, none, none⟩ color ++ scriptLine, none, w.tree, s⟩

/-- Show how far a file has come. The script is asked for even if the status does not come. -/
def showStatus (w : Workplace ν) (gateway : Gateway ν) (color : Bool) (fileId : String) (s : ν) :
    Effect ν :=
  let (status, s) := gateway (.status fileId) s
  let (script, s) := gateway (.script fileId) s
  match status with
  | .error f => ⟨"", some (.because "Failed to fetch status" f), w.tree, s⟩
  | .ok report => statusEffect w color report script s

/-- Show the result of a file. -/
def showResult (w : Workplace ν) (gateway : Gateway ν) (settings : Settings) (color : Bool)
    (fileId : String) (search : Option String) (page : Nat) (s : ν) : Effect ν :=
  match gateway (.result fileId) s with
  | (.error f, s) => ⟨"", some (.because "Failed to fetch result" f), w.tree, s⟩
  | (.ok table, s) => ⟨tableText settings color (some table) search page, none, w.tree, s⟩

/-- What is told of a file that was to be saved; without a path there was nothing to save. -/
def savedEffect (color : Bool) (saved : Saving ν (Option Path)) : Effect ν :=
  match saved.answer with
  | .error f => ⟨"", some (.because "Download failed" f), saved.tree, saved.gateway⟩
  | .ok path =>
    let told := match path with
      | some p => noticeLine .success color ("Saved " ++ p.display)
      | none => ""
    ⟨told, none, saved.tree, saved.gateway⟩

/-- The directory for saved files. -/
def downloadDir (settings : Settings) : Path :=
  Path.ofText settings.view.downloadDir

/-- Save the cleaned file. -/
def saveReport (w : Workplace ν) (gateway : Gateway ν) (settings : Settings) (color : Bool)
    (fileId : String) (output : Option Path) (s : ν) : Effect ν :=
  let saved := Saving.report gateway s w.tree w.cwd (output.getD (downloadDir settings)) fileId
    settings.view.reportEnding
  savedEffect color ⟨saved.answer.map some, saved.gateway, saved.tree⟩

/-- Show or save the script that cleans a file. -/
def giveScript (w : Workplace ν) (gateway : Gateway ν) (color : Bool) (fileId : String)
    (output : Option Path) (s : ν) : Effect ν :=
  match gateway (.script fileId) s with
  | (.error f, s) => ⟨"", some (.because "Failed to fetch script" f), w.tree, s⟩
  | (.ok script, s) =>
    match output with
    | none => ⟨lineOf script, none, w.tree, s⟩
    | some path =>
      match w.tree.write w.cwd path (Bytes.utf8 script) with
      | .ok tree => ⟨noticeLine .success color ("Saved " ++ path.display), none, tree, s⟩
      | .error f => ⟨"", some ⟨"Failed to write " ++ path.display, [f.message]⟩, w.tree, s⟩

/-- The complaint about a run that stopped. -/
def stopComplaint : Phase → Complaint
  | .failed stage message => ⟨"Pipeline failed at " ++ stage.name ++ " stage: " ++ message, []⟩
  | phase => ⟨"Pipeline stopped while " ++ phase.text, []⟩

/-- What is told of a run that is ready. -/
def readyText (settings : Settings) (color : Bool) (r : Run) (search : Option String)
    (page : Nat) : String :=
  (match r.record.bind (·.processedRowCount) with
    | some rows => noticeLine .success color (toString rows ++ " rows processed")
    | none => "") ++
    tableText settings color r.result search page

/-- What is told of a run that has ended, with the complaint if it is not ready. -/
def runText (settings : Settings) (color : Bool) (search : Option String) (page : Nat)
    (ending : Ending Phase) (r : Run) : String × Option Complaint :=
  match ending with
  | .failed f => ("", some (.ofFailure f))
  | .abandoned => ("", some (stopComplaint r.phase))
  | .done phase =>
    let progress := progressText r.snapshot color
    match phase with
    | .ready => (progress ++ readyText settings color r search page, none)
    | .failed stage message =>
      (progress ++ noticeLine .error color message, some (stopComplaint (.failed stage message)))
    | phase => (progress, some (stopComplaint phase))

/-- Take an accepted file through a run in some surroundings. -/
def carryOut {σ : Type} (env : Surroundings σ) (settings : Settings) (file : SourceFile)
    (retries : Nat) (s : σ) : Ending Phase × Run × σ :=
  let (run, _) := (Run.fresh settings.run.statusRefresh).stageFile file
  let (ending, run, s) := run.persist env retries s
  let (run, s) := run.settle env s
  (ending, run, s)

/-- Take an accepted file through a run over the network, show its result, and save it if that is
asked for. -/
def runAccepted (w : Workplace ν) (gateway : Gateway ν) (settings : Settings) (color : Bool)
    (file : SourceFile) (search : Option String) (page : Nat) (download : Bool) (retries : Nat)
    (s : ν) : Effect ν :=
  let env := Timeline.surroundings gateway.service
  let (ending, run, time) := carryOut env settings file retries
    (Timeline.start s (settings.service.timeoutSeconds * 1000))
  let (told, complaint) := runText settings color search page ending run
  let told := noticeLine .info color "Starting the processing pipeline" ++ told
  if complaint.isNone ∧ download then
    let view := View.ofTable run.result View.defaultPageSize
    Effect.after told (savedEffect color
      (view.download gateway time.service w.tree w.cwd (downloadDir settings)
        settings.view.reportEnding))
  else ⟨told, complaint, w.tree, time.service⟩

/-- Take a file through a run, if it can be read and is accepted. -/
def runFile (w : Workplace ν) (gateway : Gateway ν) (settings : Settings) (color : Bool)
    (path : Path) (search : Option String) (page : Nat) (download : Bool) (retries : Nat)
    (s : ν) : Effect ν :=
  match SourceFile.ofPath w.tree w.cwd path with
  | .error f =>
    ⟨noticeLine .error color f.userMessage,
      some (.because ("Cannot read " ++ path.display) f), w.tree, s⟩
  | .ok candidate =>
    let (_, outcome) := (Selection.empty settings.maxFileBytes).select (some candidate)
    let told := lineOf (outcome.notice.format color)
    match outcome with
    | .accepted file => Effect.after told
      (runAccepted w gateway settings color file search page download retries s)
    | _ => ⟨told, some ⟨path.display ++ " was not accepted", []⟩, w.tree, s⟩

/-- Carry out a command with a gateway. -/
def execute (w : Workplace ν) (gateway : Gateway ν) (settings : Settings) (color : Bool)
    (command : Command) (s : ν) : Effect ν :=
  match command with
  | .health => seeHealth w gateway s
  | .run file search page download retries =>
    runFile w gateway settings color file search page download retries s
  | .status fileId => showStatus w gateway color fileId s
  | .result fileId search page => showResult w gateway settings color fileId search page s
  | .download fileId output => saveReport w gateway settings color fileId output s
  | .script fileId output => giveScript w gateway color fileId output s

end Workplace

namespace Invocation

variable {ν : Type}

/-- The settings for what the user asks for: those of the file if it is there, or else those of the
other sources, or else the built-in ones; and with the address that the user gives. -/
def settings (i : Invocation) (w : Workplace ν) : Except Complaint Settings :=
  let found : Except Complaint Settings :=
    match w.tree.stat w.cwd i.settingsPath with
    | .ok _ =>
      match Settings.load w.environment w.tree w.cwd (some i.settingsPath) with
      | .ok settings => .ok settings
      | .error f => .error (.because "Failed to load configuration" f.failure)
    | .error _ =>
      match Settings.load w.environment w.tree w.cwd none with
      | .ok settings => .ok settings
      | .error _ => .ok .builtIn
  match found, i.address with
  | .ok settings, some url =>
    match settings.withBaseUrl url with
    | .ok settings => .ok settings
    | .error f => .error (.because "Invalid --api-url" f.failure)
  | found, _ => found

/-- Carry out what the user asks for. -/
def execute (i : Invocation) (w : Workplace ν) (s : ν) : Effect ν :=
  match i.settings w with
  | .error complaint => ⟨"", some complaint, w.tree, s⟩
  | .ok settings =>
    match Client.ofAddress settings.service.baseUrl with
    | .error f => ⟨"", some (.because "Failed to create HTTP client" f), w.tree, s⟩
    | .ok client =>
      let gateway := client.gateway w.boundary w.tree w.cwd w.network
      w.execute gateway settings i.color i.command s

end Invocation

end CsvCleaning
