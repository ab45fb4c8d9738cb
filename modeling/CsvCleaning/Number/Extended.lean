import CsvCleaning.Number.Layout
import CsvCleaning.Text.Digits

/-!
# Numbers with infinities

A setting may spell any binary64 value, the infinities and the value that is not a number
included. As a count it is rounded and kept within 64 bits.
-/

namespace CsvCleaning

/-- A binary64 value of any kind. -/
inductive Extended where
  | finite (x : Binary64)
  | infinite (negative : Bool)
  | undefined
deriving DecidableEq, Repr

namespace Extended

/-- The value nearest to a number written as digits with a power of ten. Far out of range it is
infinite or zero without being computed. -/
def ofDigits (negative : Bool) (digits : List Char) (exponent : Int) : Extended :=
  let significand := (Digits.number? 10 digits).getD 0
  let place := exponent + digits.length
  if significand = 0 ∨ place < -400 then .finite (.zero negative)
  else if 400 + (digits.length : Int) < place then .infinite negative
  else
    match Binary64.ofDecimal? negative significand exponent with
    | some x => .finite x
    | none => .infinite negative

/-- Write a value. -/
def write : Extended → String
  | finite x => NumberLayout.plain.write x
  | infinite negative => if negative then "-inf" else "inf"
  | undefined => "NaN"

/-- Decide whether a value is other than zero. -/
def isNonzero : Extended → Bool
  | finite x => !x.isZero
  | infinite _ | undefined => true

/-- The greatest count of 64 bits. -/
def maxCount : Nat :=
  Nat.pow 2 64 - 1

/-- The nearest count, a half away from zero; what is too small is zero, what is too large is the
greatest count. -/
def count : Extended → Nat
  | finite x => if x.negative then 0 else min x.roundMagnitude maxCount
  | infinite negative => if negative then 0 else maxCount
  | undefined => 0

/-- A count fits 64 bits. -/
theorem count_le (x : Extended) : x.count ≤ maxCount := by
  cases x with
  | finite x =>
    simp only [count]
    split
    · exact Nat.zero_le _
    · exact Nat.min_le_right _ _
  | infinite negative => cases negative <;> decide
  | undefined => decide

end Extended

/-- Cut a sign off the front: whether it is negative, and the rest. -/
def cutSign : List Char → Bool × List Char
  | '-' :: rest => (true, rest)
  | '+' :: rest => (false, rest)
  | cs => (false, cs)

/-- The whole number that characters write, if it is between two bounds. -/
def wholeNumber? (low high : Int) (cs : List Char) : Option Int :=
  let (negative, digits) := cutSign cs
  if digits = [] then none
  else
    match Digits.number? 10 digits with
    | some n =>
      let value : Int := if negative then -n else n
      if low ≤ value ∧ value ≤ high then some value else none
    | none => none

end CsvCleaning
