/-!
# Stages and phases of a run

A run goes through four stages in order. Between two stages it rests in a phase of its own, during
a stage it is busy, and a failed stage is remembered with the message for the user.
-/

namespace CsvCleaning

/-- One of the four requests that a run is made of. -/
inductive Stage where
  | upload
  | process
  | execute
  | result
deriving DecidableEq, Repr

/-- Where a run stands. -/
inductive Phase where
  | idle
  | uploading
  | uploaded
  | processing
  | processed
  | executing
  | executed
  | fetchingResult
  | ready
  | failed (stage : Stage) (message : String)
deriving DecidableEq, Repr

namespace Stage

/-- The name of a stage. -/
def name : Stage → String
  | upload => "upload"
  | process => "process"
  | execute => "execute"
  | result => "result"

/-- The place of a stage in the order. -/
def index : Stage → Nat
  | upload => 0
  | process => 1
  | execute => 2
  | result => 3

/-- Stages with the same place are the same. -/
theorem index_inj {a b : Stage} : a.index = b.index ↔ a = b := by
  cases a <;> cases b <;> decide

/-- The phase from which a stage begins, and to which a run returns to try it again. -/
def resumePhase : Stage → Phase
  | upload => .idle
  | process => .uploaded
  | execute => .processed
  | result => .executed

/-- The phase while a stage is on its way. -/
def busyPhase : Stage → Phase
  | upload => .uploading
  | process => .processing
  | execute => .executing
  | result => .fetchingResult

/-- The phase after a stage has succeeded. -/
def donePhase : Stage → Phase
  | upload => .uploaded
  | process => .processed
  | execute => .executed
  | result => .ready

end Stage

namespace Phase

/-- Decide whether a run has ended. -/
def isTerminal : Phase → Bool
  | ready | failed _ _ => true
  | _ => false

/-- Decide whether a request is on its way. -/
def isBusy : Phase → Bool
  | uploading | processing | executing | fetchingResult => true
  | _ => false

/-- Decide whether a run may begin or resume from here. -/
def canStart : Phase → Bool
  | idle | failed _ _ => true
  | _ => false

/-- The stage that failed. -/
def failedStage? : Phase → Option Stage
  | failed stage _ => some stage
  | _ => none

/-- The message of the stage that failed. -/
def errorMessage? : Phase → Option String
  | failed _ message => some message
  | _ => none

/-- The stage that comes next from a resting phase. -/
def nextStage? : Phase → Option Stage
  | idle => some .upload
  | uploaded => some .process
  | processed => some .execute
  | executed => some .result
  | _ => none

/-- How many stages may still be carried out from a phase. During a stage, after the last one and
after a failure there are none. -/
def stagesAhead (phase : Phase) : Nat :=
  match phase.nextStage? with
  | some stage => 4 - stage.index
  | none => 0

/-- The text of a phase. -/
def text : Phase → String
  | idle => "idle"
  | uploading => "uploading"
  | uploaded => "uploaded"
  | processing => "processing"
  | processed => "processed"
  | executing => "executing"
  | executed => "executed"
  | fetchingResult => "fetching result"
  | ready => "ready"
  | failed stage message => "failed at " ++ stage.name ++ ": " ++ message

/-- A stage is what comes next exactly from the phase it resumes at. -/
theorem nextStage?_eq_some_iff {phase : Phase} {stage : Stage} :
    phase.nextStage? = some stage ↔ phase = stage.resumePhase := by
  cases phase <;> cases stage <;> simp [nextStage?, Stage.resumePhase]

/-- The stage that comes next takes fewer stages to be ahead, whether it succeeds or fails. -/
theorem stagesAhead_lt_of_nextStage? {phase phase' : Phase} {stage : Stage}
    (h : phase.nextStage? = some stage)
    (h' : phase' = stage.donePhase ∨ ∃ message, phase' = .failed stage message) :
    phase'.stagesAhead < phase.stagesAhead := by
  rw [nextStage?_eq_some_iff] at h
  subst h
  rcases h' with rfl | ⟨message, rfl⟩ <;> cases stage <;>
    simp [stagesAhead, nextStage?, Stage.resumePhase, Stage.donePhase, Stage.index]

end Phase

end CsvCleaning
