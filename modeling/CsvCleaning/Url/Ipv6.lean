import CsvCleaning.Url.Ipv4

/-!
# Hosts in brackets

An address of eight pieces of sixteen bits, each of one to four hexadecimal digits between colons.
Two colons stand once for a run of zero pieces, and the last two pieces may be four decimal bytes.
When it is written, the first of the longest runs of two or more zeros is left out.
-/

namespace CsvCleaning.Ipv6

/-- A piece of one to four digits. -/
def piece? (cs : List Char) : Option Nat :=
  if 0 < cs.length ∧ cs.length ≤ 4 then Digits.number? 16 cs else none

/-- A decimal byte, which has no leading zero. -/
def byte? (cs : List Char) : Option Nat :=
  match cs with
  | [] => none
  | '0' :: _ :: _ => none
  | _ =>
    match Digits.number? 10 cs with
    | some n => if n < 256 then some n else none
    | none => none

/-- The two pieces that four decimal bytes fill. -/
def dotted? (cs : List Char) : Option (List Nat) :=
  match (Text.splitWhere (· == '.') cs).mapM byte? with
  | some [a, b, c, d] => some [a * 256 + b, c * 256 + d]
  | _ => none

/-- The pieces between colons; the last may be four decimal bytes. -/
def pieces? : List (List Char) → Option (List Nat)
  | [] => some []
  | [last] =>
    match piece? last with
    | some n => some [n]
    | none => dotted? last
  | part :: rest => do
    let n ← piece? part
    let more ← pieces? rest
    return n :: more

/-- The pieces of one side of the two colons. -/
def side? (cs : List Char) : Option (List Nat) :=
  if cs = [] then some [] else pieces? (Text.splitWhere (· == ':') cs)

/-- Cut at the first two colons. -/
def cutAtGap : List Char → List Char × Option (List Char)
  | ':' :: ':' :: rest => ([], some rest)
  | c :: rest => (c :: (cutAtGap rest).1, (cutAtGap rest).2)
  | [] => ([], none)

/-- The eight pieces that a bracketed host writes. -/
def ofChars? (cs : List Char) : Option (List Nat) :=
  match cutAtGap cs with
  | (whole, none) => do
    let pieces ← pieces? (Text.splitWhere (· == ':') whole)
    if pieces.length = 8 then some pieces else none
  | (before, some after) => do
    let head ← if '.' ∈ before then none else side? before
    let tail ← side? after
    if head.length + tail.length ≤ 7 then
      some (head ++ List.replicate (8 - head.length - tail.length) 0 ++ tail)
    else none

/-- The length of the run of zeros at the front. -/
def zeros (pieces : List Nat) : Nat :=
  (pieces.takeWhile (· == 0)).length

/-- The place and length of the first of the longest runs of zeros, with the place of the front. -/
def longestRun : Nat → List Nat → Nat × Nat
  | place, [] => (place, 0)
  | place, n :: rest =>
    let later := longestRun (place + 1) rest
    let here := zeros (n :: rest)
    if later.2 ≤ here then (place, here) else later

/-- Write a piece without leading zeros. -/
def writePiece (n : Nat) : String :=
  String.ofList (Nat.toDigits 16 n)

/-- Write pieces with colons between them. -/
def writePieces (pieces : List Nat) : String :=
  ":".intercalate (pieces.map writePiece)

/-- Write an address without brackets. -/
def write (pieces : List Nat) : String :=
  let run := longestRun 0 pieces
  if 2 ≤ run.2 then
    writePieces (pieces.take run.1) ++ "::" ++ writePieces (pieces.drop (run.1 + run.2))
  else writePieces pieces

end CsvCleaning.Ipv6
