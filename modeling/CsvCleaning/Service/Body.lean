import CsvCleaning.Service.Reply
import CsvCleaning.Failure
import CsvCleaning.Text.Blank

/-!
# What an answer means

An error answer is told by its envelope's detail, or by a fallback when there is none or it is
blank. A good answer has to have the shape of the reply that was asked for.
-/

namespace CsvCleaning.Body

/-- The detail of an error answer's body, if it has one that is not blank. -/
def detail? (body : Bytes) : Option String :=
  match Json.decodeBody ErrorEnvelope.ofDoc body with
  | .ok envelope => if Text.allBlank envelope.detail then none else some envelope.detail
  | .error _ => none

/-- The failure that an error answer is. -/
def errorOf (status : Nat) (body : Bytes) : Failure :=
  .server status ((detail? body).getD Failure.fallbackDetail)

/-- Read the body of a good answer as the reply that was asked for. The text of the failure ends before the
position in the body, as that of the problem does. -/
def decode {α : Type} (ofDoc : Json.Doc → Except Json.Fault α) (body : Bytes) :
    Except Failure α :=
  match Json.decodeBody ofDoc body with
  | .ok a => .ok a
  | .error f => .error (.malformedResponse ("unexpected response body: " ++ f.message))

/-- Decide whether a status is that of a good answer. -/
def isSuccess (status : Nat) : Bool :=
  200 ≤ status && status < 300

/-- The fallback is not blank. -/
theorem allBlank_fallbackDetail : Text.allBlank Failure.fallbackDetail = false := by
  decide +kernel

/-- The detail of an error answer is never blank. -/
theorem allBlank_of_detail? {body : Bytes} {detail : String} (h : detail? body = some detail) :
    Text.allBlank detail = false := by
  unfold detail? at h
  split at h
  · split at h
    · cases h
    · rename_i hb
      cases h
      simpa using hb
  · cases h

end CsvCleaning.Body
