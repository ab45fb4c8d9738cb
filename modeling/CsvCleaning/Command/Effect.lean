import CsvCleaning.Command.Complaint
import CsvCleaning.Command.Invocation
import CsvCleaning.Files.Tree
import CsvCleaning.Notice
import CsvCleaning.Run.Progress
import CsvCleaning.Service.Health
import CsvCleaning.Settings.Basic
import CsvCleaning.Table.View

/-!
# What a command leaves

A command writes text, may complain, and leaves the file tree and the network as they then are. It
ends well exactly when it does not complain.
-/

namespace CsvCleaning

/-- What a command leaves. -/
structure Effect (ν : Type) where
  output : String
  complaint : Option Complaint
  tree : FileTree
  network : ν

namespace Effect

/-- The code with which a command ends. -/
def code {ν : Type} (e : Effect ν) : Nat :=
  if e.complaint.isSome then 1 else 0

/-- The text of the complaint, if there is one. -/
def errors {ν : Type} (e : Effect ν) : String :=
  (e.complaint.map Complaint.format).getD ""

/-- Put text in front of what a command writes. -/
def after {ν : Type} (text : String) (e : Effect ν) : Effect ν :=
  { e with output := text ++ e.output }

end Effect

/-- A text as a line. -/
def lineOf (s : String) : String :=
  s ++ "\n"

/-- The line of a notice. -/
def noticeLine (level : Level) (color : Bool) (message : String) : String :=
  lineOf (level.format color message)

/-- The number of lines of a text; a line break at its end begins none. -/
def lineCount (s : String) : Nat :=
  match s.toList.getLast? with
  | none => 0
  | some last => s.toList.count '\n' + if last = '\n' then 0 else 1

/-- The progress of a run after a blank line: its steps, their count, and the id of its file. -/
def progressText (snapshot : Snapshot) (color : Bool) : String :=
  let p := Progress.ofSnapshot snapshot
  "\n" ++ p.format color ++
    lineOf (toString p.completedCount ++ "/" ++ toString p.steps.length ++ " steps (" ++
      toString p.percentage ++ "%) - " ++ p.footer) ++
    (match p.shortFileId with
      | some fileId => lineOf ("File ID: " ++ fileId)
      | none => "")

/-- A page of a table after a blank line, for a term to search for. -/
def tableText (settings : Settings) (color : Bool) (table : Option ResultTable)
    (search : Option String) (page : Nat) : String :=
  let whole := View.ofTable table settings.view.pageSize
  let found := match search with
    | some term => whole.search term
    | none => whole
  match (found.goTo page).render color with
  | some text => "\n" ++ lineOf text
  | none => ""

/-- The longest time of an answer, in nanoseconds, that is not called slow. -/
def slowLimit : Nat :=
  2000000000

/-- The report on an answer of the service that took so many nanoseconds. -/
def healthReport (answer : Except Failure HealthReply) (nanos : Nat) (now : Int) : HealthReport :=
  let millis := millisOf 0 nanos
  let check : HealthCheck := match answer with
    | .ok reply =>
      if slowLimit < nanos then
        ⟨"backend", .degraded, some (reply.message ++ " (slow response)"), millis⟩
      else ⟨"backend", .healthy, some reply.message, millis⟩
    | .error f => ⟨"backend", .unhealthy, some f.userMessage, millis⟩
  ⟨[check], version, now⟩

end CsvCleaning
