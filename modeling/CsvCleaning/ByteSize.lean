import CsvCleaning.Failure
import CsvCleaning.Number.Binary64

/-!
# Sizes in bytes

A size is shown in the largest unit, up to gigabytes, of which it is at least one. It is first
rounded to the 53 bits of a binary64 value and then shown with two places, a half going to the
even hundredth; bytes are shown as they are.
-/

namespace CsvCleaning.ByteSize

/-- A whole number rounded to 53 significant bits, a half to the even neighbour. -/
def roundTo53 (n : Nat) : Nat :=
  if n < Nat.pow 2 53 then n
  else
    let unit := Nat.pow 2 (n.log2 - 52)
    divHalfEven n unit * unit

/-- A unit of size. -/
inductive Unit where
  | bytes
  | kilobytes
  | megabytes
  | gigabytes
deriving DecidableEq, Repr

/-- The number of bytes in a unit. -/
def Unit.size : Unit → Nat
  | bytes => 1
  | kilobytes => 1024
  | megabytes => Nat.pow 1024 2
  | gigabytes => Nat.pow 1024 3

/-- The text of a unit. -/
def Unit.name : Unit → String
  | bytes => "Bytes"
  | kilobytes => "KB"
  | megabytes => "MB"
  | gigabytes => "GB"

/-- The largest unit of which a number of bytes is at least one. -/
def unitFor (n : Nat) : Unit :=
  if n < 1024 then .bytes
  else if n < Nat.pow 1024 2 then .kilobytes
  else if n < Nat.pow 1024 3 then .megabytes
  else .gigabytes

/-- A size in hundredths of a unit, rounded to the nearest and a half to the even one. -/
def hundredths (n : Nat) (unit : Unit) : Nat :=
  divHalfEven (n * 100) unit.size

/-- Write hundredths with two places. -/
def twoPlaces (h : Nat) : String :=
  toString (h / 100) ++ "." ++ String.ofList [Nat.digitChar (h % 100 / 10), Nat.digitChar (h % 10)]

/-- The size as it is shown. -/
def format (n : Nat) : String :=
  let rounded := roundTo53 n
  match unitFor rounded with
  | .bytes => toString n ++ " Bytes"
  | unit => twoPlaces (hundredths rounded unit) ++ " " ++ unit.name

/-- Refuse a size above a limit; a limit of zero is none. -/
def checkLimit (size limit : Nat) : Except Failure PUnit :=
  if 0 < limit ∧ limit < size then
    .error (.validation ("file too large (" ++ format size ++ " > " ++ format limit ++ ")"))
  else .ok ()

/-- A number of at most 53 bits is not rounded. -/
theorem roundTo53_of_lt {n : Nat} (h : n < Nat.pow 2 53) : roundTo53 n = n :=
  if_pos h

/-- A size is accepted exactly when there is no limit or the limit is not exceeded. -/
theorem checkLimit_eq_ok_iff {size limit : Nat} :
    checkLimit size limit = .ok () ↔ limit = 0 ∨ size ≤ limit := by
  unfold checkLimit
  split
  · simp only [reduceCtorEq, false_iff]
    omega
  · simp only [true_iff]
    omega

end CsvCleaning.ByteSize
