import CsvCleaning.Run.Record
import CsvCleaning.Run.Stage
import CsvCleaning.Text.Style

/-!
# Progress

What observers see of a run is a snapshot. The four steps of the display are derived from the
flags of its record: a step is complete when its flag is set and on its way when the one before it
is complete. The footer puts the run into one line.
-/

namespace CsvCleaning

/-- What observers see of a run. -/
structure Snapshot where
  phase : Phase
  record : Option Record
  fileName : Option String
  resultRows : Option Nat
deriving DecidableEq

/-- The snapshot of a run that has not begun. -/
def Snapshot.idle : Snapshot :=
  ⟨.idle, none, none, none⟩

/-- A step of the display. -/
inductive StepKind where
  | upload
  | processing
  | execution
  | ready
deriving DecidableEq, Repr

namespace StepKind

/-- The steps in order. -/
def all : List StepKind :=
  [upload, processing, execution, ready]

/-- The title of a step. -/
def title : StepKind → String
  | upload => "Upload"
  | processing => "Processed by LLM"
  | execution => "Script Executed"
  | ready => "Result Returned"

/-- What happens in a step. -/
def description : StepKind → String
  | upload => "File sent to the server"
  | processing => "AI analysing data and generating a cleaning script"
  | execution => "Transformations applied to the data"
  | ready => "Processed data available to the user"

/-- The flag of a step. -/
def flag (f : Flags) : StepKind → Bool
  | upload => f.uploaded
  | processing => f.processed
  | execution => f.executed
  | ready => f.ready

/-- Decide whether what a step waits for is there; the first step waits for nothing. -/
def isOpen (f : Flags) : StepKind → Bool
  | upload => true
  | processing => f.uploaded
  | execution => f.processed
  | ready => f.executed

end StepKind

/-- How far a step has come. -/
structure StepView where
  kind : StepKind
  completed : Bool
  processing : Bool
deriving DecidableEq, Repr

namespace StepView

/-- The view of one step. -/
def viewOf (record : Option Record) (kind : StepKind) : StepView :=
  match record with
  | none => ⟨kind, false, false⟩
  | some r => ⟨kind, kind.flag r.flags, kind.isOpen r.flags && !kind.flag r.flags⟩

/-- The mark in front of a step, bold and coloured; a step on its way shows a cross when the run
has failed. -/
def mark (step : StepView) (failed color : Bool) : String :=
  if step.completed then Text.style color [.bold, .green] "✓"
  else if step.processing && failed then Text.style color [.bold, .red] "✗"
  else if step.processing then Text.style color [.bold, .cyan] "…"
  else Text.style color [.dimmed] "○"

/-- The line of a step with its number. -/
def line (step : StepView) (number : Nat) (failed color : Bool) : String :=
  step.mark failed color ++ " " ++ toString number ++ ". " ++ step.kind.title ++ " - " ++
    step.kind.description ++ "\n"

end StepView

/-- The steps of a record's run. -/
def stepsOf (record : Option Record) : List StepView :=
  StepKind.all.map (StepView.viewOf record)

/-- A run as the progress display shows it. -/
structure Progress where
  steps : List StepView
  completedCount : Nat
  footer : String
  shortFileId : Option String
  error : Option String
deriving DecidableEq

namespace Progress

/-- The footer of a run whose result is there. -/
def footerReady : String :=
  "Processing completed successfully!"

/-- The footer of a run that failed. -/
def footerFailed : String :=
  "Processing error"

/-- The footer of a run with a request on its way. -/
def footerBusy : String :=
  "Checking status..."

/-- The footer of a run that rests. -/
def footerWaiting : String :=
  "Waiting for processing to start"

/-- The footer of a snapshot: a ready record comes first, then a failure, then a request on its
way. -/
def footerOf (s : Snapshot) : String :=
  if s.record.any (·.flags.ready) then footerReady
  else if s.phase.errorMessage?.isSome then footerFailed
  else if s.phase.isBusy then footerBusy
  else footerWaiting

/-- The first eight characters of a file id and three dots. -/
def shorten (fileId : String) : String :=
  String.ofList (fileId.toList.take 8) ++ "..."

/-- The progress that a snapshot shows. -/
def ofSnapshot (s : Snapshot) : Progress :=
  let steps := stepsOf s.record
  { steps
    completedCount := steps.countP (·.completed)
    footer := footerOf s
    shortFileId := s.record.map fun r => shorten r.fileId
    error := s.phase.errorMessage? }

/-- The share of completed steps in per cent. -/
def percentage (p : Progress) : Nat :=
  p.completedCount * 100 / p.steps.length

/-- The first step on its way. -/
def activeStep? (p : Progress) : Option StepView :=
  p.steps.find? (·.processing)

/-- The steps, a line each. -/
def format (p : Progress) (color : Bool) : String :=
  String.join (p.steps.zipIdx.map fun e => e.1.line (e.2 + 1) p.error.isSome color)

/-- Without a record no step is complete. -/
theorem completedCount_of_none {s : Snapshot} (h : s.record = none) :
    (ofSnapshot s).completedCount = 0 := by
  simp [ofSnapshot, h, stepsOf, StepKind.all, StepView.viewOf]

end Progress

end CsvCleaning
