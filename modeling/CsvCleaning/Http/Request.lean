import CsvCleaning.Url.Basic

/-!
# Requests and what comes back

A request names a method, an address and perhaps a content. A network carries it and brings back an
answer, whole or cut short, or none at all; it may remember what it carried.
-/

namespace CsvCleaning

/-- What is asked for at an address. -/
inductive Method where
  | get
  | post
deriving DecidableEq, Repr

/-- The name of a method. -/
def Method.name : Method → String
  | get => "GET"
  | post => "POST"

/-- Bytes that a request carries, with the type that tells how to read them. -/
structure Content where
  type : String
  body : Bytes
deriving DecidableEq, Repr

/-- A request as it is sent. -/
structure Request where
  method : Method
  url : Url
  content : Option Content
deriving DecidableEq, Repr

/-- The first line of a request, up to the version. -/
def Request.line (r : Request) : String :=
  r.method.name ++ " " ++ r.url.target

/-- What comes back for a request. -/
inductive Exchange where
  | noAnswer
  | answer (status : Nat) (body : Bytes) (cutShort : Bool)
deriving DecidableEq, Repr

/-- What carries requests, one at a time. -/
abbrev Network (ν : Type) :=
  Request → ν → Exchange × ν

/-- A network on which nobody answers. -/
def Network.silent (ν : Type) : Network ν :=
  fun _ state => (.noAnswer, state)

end CsvCleaning
