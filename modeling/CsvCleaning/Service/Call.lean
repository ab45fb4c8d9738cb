import CsvCleaning.Files.SourceFile
import CsvCleaning.Service.Reply
import CsvCleaning.Table.Result

/-!
# Calls of the service

What can be asked of the service, and what it replies to each. A gateway answers calls one at a
time and may remember something of them.
-/

namespace CsvCleaning

/-- A call of the service. -/
inductive Call where
  | health
  | upload (file : SourceFile)
  | process (fileId : String)
  | execute (fileId : String)
  | status (fileId : String)
  | result (fileId : String)
  | script (fileId : String)
  | download (fileId : String)
deriving DecidableEq, Repr

namespace Call

/-- What a call is answered with when all goes well. -/
abbrev Reply : Call → Type
  | health => HealthReply
  | upload _ => UploadReply
  | process _ => ProcessReply
  | execute _ => ExecuteReply
  | status _ => StatusReport
  | result _ => ResultTable
  | script _ => String
  | download _ => Bytes

/-- The name of a call. -/
def name : Call → String
  | health => "health"
  | upload _ => "upload"
  | process _ => "process"
  | execute _ => "execute"
  | status _ => "status"
  | result _ => "result"
  | script _ => "script"
  | download _ => "download"

/-- What a call is about: the name of the file or its id. -/
def argument : Call → String
  | health => ""
  | upload file => file.name
  | process fileId | execute fileId | status fileId | result fileId | script fileId
  | download fileId => fileId

end Call

/-- The answer to a call: a reply or a failure. -/
abbrev Answer (c : Call) :=
  Except Failure c.Reply

/-- What answers calls, one at a time. -/
abbrev Gateway (σ : Type) :=
  (c : Call) → σ → Answer c × σ

/-- When the answer to a call comes. -/
inductive Timing (c : Call) where
  | now (answer : Answer c)
  /-- The service is to be woken for its answer after some milliseconds. -/
  | later (millis : Nat)
  | never

/-- A service whose answers take time. -/
structure Service (σ : Type) where
  /-- Take a call. -/
  receive : (c : Call) → σ → Timing c × σ
  /-- Answer a call whose time has come. -/
  wake : (c : Call) → σ → Answer c × σ

/-- A service whose answers are waited for. -/
def Service.gateway {σ : Type} (service : Service σ) : Gateway σ := fun c s =>
  match service.receive c s with
  | (.now answer, s) => (answer, s)
  | (.later _, s) => service.wake c s
  | (.never, s) => (.error (.transport "no answer"), s)

/-- A gateway whose answers come at once. -/
def Gateway.service {σ : Type} (gateway : Gateway σ) : Service σ where
  receive c s := ((.now (gateway c s).1), (gateway c s).2)
  wake c s := gateway c s

end CsvCleaning
