import CsvCleaning.Url.Form
import CsvCleaning.Url.Host
import CsvCleaning.Url.Segments

/-!
# Addresses

An address names a resource of a service: a scheme, a host with a port, a path, and perhaps a query
and a fragment. Reading one brings it into a normal form. White space and control characters at its
ends, and tabs and line breaks anywhere, are dropped, slashes of either kind part it, credentials
are left out, dots in the path are followed, and characters that cannot stand in a part are
percent-encoded there.
-/

namespace CsvCleaning

/-- How a service is spoken to. -/
inductive Scheme where
  | http
  | https
deriving DecidableEq, Repr

namespace Scheme

/-- The name of a scheme. -/
def name : Scheme → String
  | http => "http"
  | https => "https"

/-- The port of a service that names none. -/
def port : Scheme → Nat
  | http => 80
  | https => 443

/-- The scheme of a name, in any case. -/
def ofChars? (cs : List Char) : Option Scheme :=
  [http, https].find? fun s => s.name.toList = cs.map Char.toLower

end Scheme

/-- An address in normal form. The parts of the path stand between single slashes, and a port that
the scheme implies is left out. -/
structure Url where
  scheme : Scheme
  host : String
  port : Option Nat
  path : List String
  query : Option String
  fragment : Option String
deriving DecidableEq, Repr

namespace Url

/-- Decide whether a character may stand in a fragment. -/
def keptInFragment (c : Char) : Bool :=
  0x20 < c.toNat && c.toNat < 0x7F &&
    !(c == '\"' || c == '<' || c == '>' || c.toNat == 0x60)

/-- Decide whether a character may stand in a path. -/
def keptInPath (c : Char) : Bool :=
  keptInFragment c && !(c == '#' || c == '?' || c == '{' || c == '}')

/-- Decide whether a character may stand in a query. -/
def keptInQuery (c : Char) : Bool :=
  0x20 < c.toNat && c.toNat < 0x7F &&
    !(c == '\"' || c == '#' || c == '<' || c == '>' || c == '\'')

/-- Drop what counts for nothing: white space and control characters at the ends, tabs and line
breaks anywhere. -/
def clean (cs : List Char) : List Char :=
  let ends := fun c : Char => decide (c.toNat ≤ 0x20)
  ((cs.dropWhile ends).reverse.dropWhile ends).reverse.filter fun c =>
    !(c == '\t' || c == '\n' || c == '\r')

/-- What follows the last at sign, if there is one. -/
def withoutCredentials (authority : List Char) : List Char :=
  ((Text.splitWhere (· == '@') authority).getLast?).getD []

/-- Cut before the port: at the first colon that is not in brackets. -/
def cutPort : Bool → List Char → List Char × Option (List Char)
  | _, [] => ([], none)
  | inBrackets, c :: rest =>
    if c = ':' ∧ ¬ inBrackets then ([], some rest)
    else
      let cut := cutPort (c == '[' || (inBrackets && c != ']')) rest
      (c :: cut.1, cut.2)

/-- The port that digits write, unless the scheme implies it. -/
def port? (scheme : Scheme) : Option (List Char) → Option (Option Nat)
  | none | some [] => some none
  | some digits =>
    if digits.all Char.isDigit then
      match Digits.number? 10 digits with
      | some n => if 65535 < n then none else some (if n = scheme.port then none else some n)
      | none => none
    else none

/-- The segments of a path that begins with a slash or is empty. -/
def readPath (cs : List Char) : List String :=
  let segments := (Text.splitWhere Segments.isSlash cs.tail).map (Percent.encode keptInPath)
  (Segments.resolve segments).map String.ofList

/-- Read what follows the scheme's colon. -/
def readAfterScheme? (scheme : Scheme) (cs : List Char) : Option Url := do
  let cs := cs.dropWhile Segments.isSlash
  let isEnd := fun c => Segments.isSlash c || c == '?' || c == '#'
  let (hostText, portText) := cutPort false (withoutCredentials (cs.takeWhile (!isEnd ·)))
  let host ← Host.ofChars? hostText
  let port ← port? scheme portText
  let (rest, fragment) := Text.cutAt (· == '#') (cs.dropWhile (!isEnd ·))
  let (path, query) := Text.cutAt (· == '?') rest
  return {
    scheme
    host
    port
    path := readPath path
    query := query.map fun q => String.ofList (Percent.encode keptInQuery q)
    fragment := fragment.map fun f => String.ofList (Percent.encode keptInFragment f) }

/-- Read an address; one without a host is none, nor is one of another scheme. -/
def ofText? (text : String) : Option Url :=
  match Text.cutAt (· == ':') (clean text.toList) with
  | (name, some rest) => (Scheme.ofChars? name).bind fun scheme => readAfterScheme? scheme rest
  | (_, none) => none

/-- The text of the path. -/
def pathText (u : Url) : String :=
  "/" ++ "/".intercalate u.path

/-- What a request names of its address: the path with the query. -/
def target (u : Url) : String :=
  u.pathText ++ (match u.query with | some q => "?" ++ q | none => "")

/-- The text of the host with its port. -/
def authority (u : Url) : String :=
  u.host ++ (match u.port with | some p => ":" ++ toString p | none => "")

/-- The text of an address. -/
def text (u : Url) : String :=
  u.scheme.name ++ "://" ++ u.authority ++ u.target ++
    (match u.fragment with | some f => "#" ++ f | none => "")

/-- The length in bytes of the longest address that goes into a request. -/
def maxLength : Nat :=
  65534

/-- Decide whether an address goes into a request: it must not be too long, and there are marks that
a name may have but not there. -/
def isSendable (u : Url) : Bool :=
  u.text.utf8ByteSize ≤ maxLength &&
    u.host.toList.all fun c => !(c == '\"' || c.toNat == 0x60 || c == '{' || c == '}')

/-- Put a name with its value at the end of the query. -/
def append (u : Url) (name value : String) : Url :=
  { u with query := some (Form.append u.query name value) }

/-- A pair put at the end of an absent query is all of it. -/
theorem query_append_of_none {u : Url} (h : u.query = none) (name value : String) :
    (u.append name value).query = some (String.ofList (Form.writePair name value)) := by
  simp [append, Form.append, h]

end Url

end CsvCleaning
