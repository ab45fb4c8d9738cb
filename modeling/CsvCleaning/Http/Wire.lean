import CsvCleaning.Http.Request
import CsvCleaning.Settings.RawValue
import CsvCleaning.Text.Blank

/-!
# Requests and answers on the wire

A request is written as a line, headers, and its content after a blank line; the connection is to
be closed after the answer. An answer is read back from all bytes that came before it was closed: its
length is announced, or it comes in chunks, or it goes on to the end.
-/

namespace CsvCleaning.Wire

/-- Put lines in front of a content, each ended by carriage return and line feed. -/
def writeLines (lines : List String) (content : Bytes) : Bytes :=
  Bytes.utf8 (String.join (lines.map (· ++ "\r\n"))) ++ content

/-- The lines that describe a content. -/
def contentLines : Option Content → List String
  | some c => ["Content-Type: " ++ c.type, "Content-Length: " ++ toString c.body.length]
  | none => ["Content-Length: 0"]

/-- Write a request. -/
def write (r : Request) : Bytes :=
  let described := match r.method with
    | .get => []
    | .post => contentLines r.content
  writeLines
    ([r.line ++ " HTTP/1.1", "Host: " ++ r.url.authority, "Accept: */*", "Connection: close"] ++
      described ++ [""])
    ((r.content.map (·.body)).getD [])

/-- Cut at the first line break. -/
def cutLine : Bytes → Option (Bytes × Bytes)
  | 0x0D :: 0x0A :: rest => some ([], rest)
  | b :: rest => (cutLine rest).map fun r => (b :: r.1, r.2)
  | [] => none

/-- The header lines up to the blank one, `limit` of them at most, and what follows. -/
def cutHead : Nat → Bytes → Option (List String × Bytes)
  | 0, _ => none
  | limit + 1, bytes => do
    let (line, rest) ← cutLine bytes
    if line = [] then return ([], rest)
    else
      let (lines, rest) ← cutHead limit rest
      return (Bytes.readUtf8Lossy line :: lines, rest)

/-- A text without white space at its ends, in lower case. -/
def plain (cs : List Char) : List Char :=
  ((cs.dropWhile Text.isBlank).reverse.dropWhile Text.isBlank).reverse.map Char.toLower

/-- The value of a header, by its name in lower case. -/
def header? (lines : List String) (name : String) : Option String :=
  lines.findSome? fun line =>
    match Text.cutAt (· == ':') line.toList with
    | (n, some value) => if plain n = name.toList then some (String.ofList (plain value)) else none
    | (_, none) => none

/-- The status in the first line of an answer. -/
def status? (line : String) : Option Nat :=
  match Text.splitWhere (· == ' ') line.toList with
  | _ :: code :: _ => if code.length = 3 then Digits.number? 10 code else none
  | _ => none

/-- Put chunks together, `limit` of them at most, and say whether the last one is missing. -/
def joinChunks : Nat → Bytes → Bytes × Bool
  | 0, _ => ([], true)
  | limit + 1, bytes =>
    match cutLine bytes with
    | none => ([], true)
    | some (size, rest) =>
      let digits := (Bytes.readUtf8Lossy size).toList.takeWhile fun c => c != ';' && c != ' '
      match Digits.number? 16 digits with
      | none => ([], true)
      | some 0 => ([], false)
      | some n =>
        if rest.length < n then (rest, true)
        else
          let (more, cut) := joinChunks limit ((rest.drop n).drop 2)
          (rest.take n ++ more, cut)

/-- The body of an answer, and whether it is cut short. -/
def readBody (status : Nat) (lines : List String) (bytes : Bytes) : Bytes × Bool :=
  if status = 204 ∨ status = 304 then ([], false)
  else if header? lines "transfer-encoding" = some "chunked" then joinChunks bytes.length bytes
  else
    match (header? lines "content-length").bind RawValue.writtenCount? with
    | some n => (bytes.take n, bytes.length < n)
    | none => (bytes, false)

/-- Read what came back; without a whole head it is no answer. -/
def read (bytes : Bytes) : Exchange :=
  match cutHead bytes.length bytes with
  | some (first :: lines, rest) =>
    match status? first with
    | some status =>
      let (body, cut) := readBody status lines rest
      .answer status body cut
    | none => .noAnswer
  | _ => .noAnswer

end CsvCleaning.Wire
