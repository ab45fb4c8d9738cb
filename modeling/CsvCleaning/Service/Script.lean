import CsvCleaning.Service.Call

/-!
# A service that follows a script

Each kind of call has a list of answers that it takes in turn. An answer may also never come, and
when the list is used up the call fails.
-/

namespace CsvCleaning

/-- An entry of a script. -/
inductive Cue (α : Type) where
  | answer (a : Except Failure α)
  | silence

/-- The answers to come, by kind of call. -/
structure Script where
  upload : List (Cue UploadReply)
  process : List (Cue ProcessReply)
  execute : List (Cue ExecuteReply)
  result : List (Cue ResultTable)
  status : List (Cue StatusReport)
  download : List (Cue Bytes)

namespace Script

/-- The failure of a call for which nothing is left. -/
def exhausted : Failure :=
  .transport "script exhausted"

/-- The timing of a call given the first of the entries for it. -/
def timing (c : Call) : Option (Cue c.Reply) → Timing c
  | some (.answer a) => .now a
  | some .silence => .never
  | none => .now (.error exhausted)

/-- Take a call: its answer is the next entry. -/
def receive : (c : Call) → Script → Timing c × Script
  | .upload file, s => (timing (.upload file) s.upload.head?, { s with upload := s.upload.tail })
  | .process i, s => (timing (.process i) s.process.head?, { s with process := s.process.tail })
  | .execute i, s => (timing (.execute i) s.execute.head?, { s with execute := s.execute.tail })
  | .result i, s => (timing (.result i) s.result.head?, { s with result := s.result.tail })
  | .status i, s => (timing (.status i) s.status.head?, { s with status := s.status.tail })
  | .download i, s => (timing (.download i) s.download.head?, { s with download := s.download.tail })
  | .health, s => (.now (.error exhausted), s)
  | .script i, s => (timing (.script i) none, s)

/-- The script as a service. -/
def service : Service Script where
  receive := receive
  wake _ s := (.error exhausted, s)

/-- The script with its answers waited for. -/
def gateway : Gateway Script :=
  service.gateway

end Script

end CsvCleaning
