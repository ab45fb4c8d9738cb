import CsvCleaning.Json.Fault
import CsvCleaning.Json.Value
import CsvCleaning.Text.Bytes

/-!
# Number tokens

A token is cut out of the text by the grammar and then given a value. The digits are gathered in
64 bits; those that no longer fit move the exponent and are dropped. The significand is rounded
to binary64 and then multiplied or divided by a rounded power of ten, so a long token may end one
place away from the nearest value.
-/

namespace CsvCleaning.Json

/-- A number as it is written: its digits before the point, after it, and in the exponent with
whether that is positive. -/
structure NumberToken where
  negative : Bool
  whole : List Nat
  fraction : Option (List Nat)
  exponent : Option (Bool × List Nat)
deriving Repr

/-- The value of an ASCII digit. -/
def digit? (b : UInt8) : Option Nat :=
  if 0x30 ≤ b.toNat ∧ b.toNat ≤ 0x39 then some (b.toNat - 0x30) else none

/-- The digits at the front of a text and what follows them. -/
def takeDigits : Bytes → List Nat × Bytes
  | [] => ([], [])
  | b :: rest =>
    match digit? b with
    | some d =>
      let (digits, after) := takeDigits rest
      (d :: digits, after)
    | none => ([], b :: rest)

/-- The largest whole number of 64 bits. -/
def maxWord : Nat :=
  Nat.pow 2 64 - 1

/-- Gather digits while they fit 64 bits; give the digits that were left. -/
def gather (significand : Nat) : List Nat → Nat × List Nat
  | [] => (significand, [])
  | d :: rest =>
    if maxWord < significand * 10 + d then (significand, d :: rest)
    else gather (significand * 10 + d) rest

/-- The power of ten nearest to `10^k`, for `k` up to 308. It is not unfolded in proofs, where its digits
say nothing. -/
@[irreducible]
def powerOfTen (k : Nat) : Binary64 :=
  (Binary64.ofNat? (Nat.pow 10 k)).getD (.zero false)

/-- Multiply or divide a magnitude by a power of ten, in steps of `10^308` when dividing by more.
A magnitude has become zero well before the steps run out. -/
def scale (negative : Bool) : Nat → Binary64 → Int → Except Fault Binary64
  | 0, _, _ => .ok (.zero negative)
  | steps + 1, x, e =>
    if e.natAbs ≤ 308 then
      let scaled := if 0 ≤ e then x.mul? (powerOfTen e.natAbs) else x.div? (powerOfTen e.natAbs)
      match scaled with
      | some y => .ok (y.withSign negative)
      | none => .error .numberOutOfRange
    else if x.isZero then .ok (.zero negative)
    else if 0 ≤ e then .error .numberOutOfRange
    else
      match x.div? (powerOfTen 308) with
      | some y => scale negative steps y (e + 308)
      | none => .error .numberOutOfRange

/-- The value of a gathered significand at an exponent. -/
def ofParts (negative : Bool) (significand : Nat) (exponent : Int) : Except Fault Binary64 :=
  match Binary64.ofNat? significand with
  | some x => scale negative 8 x exponent
  | none => .error .numberOutOfRange

/-- The largest exponent that a token may spell. -/
def maxExponent : Nat :=
  Nat.pow 2 31 - 1

/-- Gather the digits of an exponent; `none` when they exceed 31 bits. -/
def gatherExponent (acc : Nat) : List Nat → Option Nat
  | [] => some acc
  | d :: rest => if maxExponent < acc * 10 + d then none else gatherExponent (acc * 10 + d) rest

/-- Keep an exponent within 32 bits. -/
def clampExponent (e : Int) : Int :=
  max (-(maxExponent : Int) - 1) (min e maxExponent)

/-- The value of a token that is not a whole number, given its significand and the exponent that
the digits outside of it leave. -/
def NumberToken.real (t : NumberToken) (significand : Nat) (shift : Int) :
    Except Fault Binary64 :=
  match t.exponent with
  | none => ofParts t.negative significand shift
  | some (positive, digits) =>
    match gatherExponent 0 digits with
    | some e =>
      ofParts t.negative significand (clampExponent (if positive then shift + e else shift - e))
    | none =>
      if significand ≠ 0 ∧ positive then .error .numberOutOfRange
      else .ok (.zero t.negative)

/-- The value of a token. -/
def NumberToken.value (t : NumberToken) : Except Fault JsonNumber :=
  let (whole, dropped) := gather 0 t.whole
  match t.fraction with
  | some digits =>
    let (significand, rest) := gather whole digits
    let shift : Int := dropped.length - (digits.length - rest.length : Nat)
    (t.real significand shift).map .real
  | none =>
    if t.exponent.isSome ∨ dropped ≠ [] then
      (t.real whole dropped.length).map .real
    else if t.negative then
      if whole = 0 ∨ Nat.pow 2 63 < whole then
        (ofParts true whole 0).map .real
      else .ok (.int (-(whole : Int)))
    else .ok (.int whole)

/-- The digits at the front of a text, of which there have to be some, and what follows them. -/
def someDigits (bs : Bytes) : Except Break (List Nat × Bytes) :=
  match takeDigits bs with
  | ([], []) => .error ⟨.endInValue, .invalidNumber⟩
  | ([], _ :: _) => .error (.same .invalidNumber)
  | (digits, after) => .ok (digits, after)

/-- Cut a minus sign off the front: whether there was one, and the rest. -/
def takeMinus : Bytes → Bool × Bytes
  | [] => (false, [])
  | b :: rest => if b = 0x2D then (true, rest) else (false, b :: rest)

/-- Cut a sign off the front: whether it is not negative, and the rest. -/
def takeSign : Bytes → Bool × Bytes
  | [] => (true, [])
  | b :: rest =>
    if b = 0x2B then (true, rest) else if b = 0x2D then (false, rest) else (true, b :: rest)

/-- Cut the digits before the point out of a text. No zero stands in front of others. -/
def scanWhole (bs : Bytes) : Except Break (List Nat × Bytes) :=
  match someDigits bs with
  | .error b => .error b
  | .ok (0 :: _ :: _, _) => .error (.same .invalidNumber)
  | .ok (digits, after) => .ok (digits, after)

/-- Cut a point and the digits behind it out of a text, if it goes on with a point. -/
def scanFraction : Bytes → Except Break (Option (List Nat) × Bytes)
  | [] => .ok (none, [])
  | b :: rest =>
    if b = 0x2E then (someDigits rest).map fun (digits, after) => (some digits, after)
    else .ok (none, b :: rest)

/-- Cut an exponent out of a text, if it goes on with its letter. -/
def scanExponent : Bytes → Except Break (Option (Bool × List Nat) × Bytes)
  | [] => .ok (none, [])
  | b :: rest =>
    if b = 0x65 ∨ b = 0x45 then
      let (positive, rest) := takeSign rest
      (someDigits rest).map fun (digits, after) => (some (positive, digits), after)
    else .ok (none, b :: rest)

/-- Cut a token out of the text at its first character, or say where its grammar breaks. -/
def scanNumber (bs : Bytes) : Except Break (NumberToken × Bytes) := do
  let (negative, bs) := takeMinus bs
  let (whole, bs) ← scanWhole bs
  let (fraction, bs) ← scanFraction bs
  let (exponent, bs) ← scanExponent bs
  return (⟨negative, whole, fraction, exponent⟩, bs)

end CsvCleaning.Json
