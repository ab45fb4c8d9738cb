import CsvCleaning.Text.Digits
import CsvCleaning.Text.Split

/-!
# Numeric hosts

A host whose last label is a number is an address of four bytes. It may have fewer than four
numbers, the last of which then fills the bytes that are left, and each number may be octal with a
leading zero or hexadecimal with `0x`. It is written as four decimal numbers.
-/

namespace CsvCleaning.Ipv4

/-- The number that a label writes. -/
def number? : List Char → Option Nat
  | [] => none
  | '0' :: 'x' :: rest | '0' :: 'X' :: rest => Digits.number? 16 rest
  | '0' :: d :: rest => Digits.number? 8 (d :: rest)
  | label => Digits.number? 10 label

/-- The labels of a host, without the empty one after a final dot. -/
def labels (host : List Char) : List (List Char) :=
  let parts := Text.splitWhere (· == '.') host
  if parts.length > 1 ∧ parts.getLast? = some [] then parts.dropLast else parts

/-- Decide whether the last label of a host is a number. -/
def endsInNumber (host : List Char) : Bool :=
  match (labels host).getLast? with
  | some last => (last ≠ [] && last.all Char.isDigit) || (number? last).isSome
  | none => false

/-- The address of one to four numbers. -/
def ofNumbers? (numbers : List Nat) : Option Nat :=
  match numbers.getLast? with
  | none => none
  | some last =>
    let bytes := numbers.dropLast
    if bytes.length ≤ 3 ∧ bytes.all (· < 256) ∧ last < Nat.pow 256 (4 - bytes.length) then
      some (bytes.foldl (fun high b => high * 256 + b) 0 * Nat.pow 256 (4 - bytes.length) + last)
    else none

/-- The address that a host writes. -/
def ofHost? (host : List Char) : Option Nat :=
  ((labels host).mapM number?).bind ofNumbers?

/-- Write an address as four decimal numbers. -/
def write (address : Nat) : String :=
  ".".intercalate ([3, 2, 1, 0].map fun place => toString (address / Nat.pow 256 place % 256))

end CsvCleaning.Ipv4
