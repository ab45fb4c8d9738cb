import CsvCleaning.Number.Binary64

/-!
# The shortest decimal that reads back

Among all decimals that round to a given binary64 value take those with the fewest digits, and of
these the nearest. A decimal rounds to the value exactly when it lies in the interval between the
midpoints to the two neighbours, ends included if the mantissa is even. On the grid of a given
number of digits only the two points around the value need be tried.
-/

namespace CsvCleaning

/-- The decimal `0.d₁d₂…dₙ · 10^point` of its digits. -/
structure Decimal where
  digits : List Char
  point : Int
deriving DecidableEq, Repr

namespace Decimal

/-- Remove the zeros at the end of a number's digits. -/
def stripZeros (digits : List Char) : List Char :=
  (digits.reverse.dropWhile (· == '0')).reverse

/-- The decimal of a whole number of units `10^unit`. -/
def ofUnits (count : Nat) (unit : Int) : Decimal :=
  let digits := Nat.toDigits 10 count
  ⟨stripZeros digits, unit + digits.length⟩

end Decimal

namespace Binary64

/-- The place of the decimal point: `10^(place-1) ≤ num / den < 10^place`. -/
def decimalPlace (num den : Nat) : Int :=
  if den ≤ num then ((Nat.toDigits 10 (num / den)).length : Int)
  else
    match (List.range 400).find? fun k => den ≤ num * Nat.pow 10 (k + 1) with
    | some k => -(k : Int)
    | none => -400

/-- The interval of reals that round to a value: the value and its two bounds over one
denominator, and whether the bounds themselves belong to it. -/
structure Neighbourhood where
  value : Nat
  low : Nat
  high : Nat
  den : Nat
  closed : Bool

/-- The interval of reals that round to a magnitude other than zero. -/
def neighbourhood (x : Binary64) : Neighbourhood :=
  let q := x.exponent - 2
  let up := Nat.pow 2 q.toNat
  let below := if x.mantissa = Nat.pow 2 52 ∧ x.exponent > -1074 then 1 else 2
  { value := 4 * x.mantissa * up
    low := (4 * x.mantissa - below) * up
    high := (4 * x.mantissa + 2) * up
    den := Nat.pow 2 (-q).toNat
    closed := x.mantissa % 2 = 0 }

/-- Decide whether `count · 10^unit` lies in the interval. -/
def Neighbourhood.has (nb : Neighbourhood) (count : Nat) (unit : Int) : Bool :=
  let point := count * Nat.pow 10 unit.toNat * nb.den
  let scale := Nat.pow 10 (-unit).toNat
  if nb.closed then nb.low * scale ≤ point && point ≤ nb.high * scale
  else nb.low * scale < point && point < nb.high * scale

/-- The nearer of the two grid points around the value that lie in the interval, if one does. -/
def Neighbourhood.onGrid? (nb : Neighbourhood) (unit : Int) : Option Nat :=
  let num := nb.value * Nat.pow 10 (-unit).toNat
  let den := nb.den * Nat.pow 10 unit.toNat
  let floor := num / den
  let rest := num % den
  match nb.has floor unit, nb.has (floor + 1) unit with
  | true, true =>
    if 2 * rest < den then some floor
    else if den < 2 * rest then some (floor + 1)
    else some (if floor % 2 = 0 then floor else floor + 1)
  | true, false => some floor
  | false, true => some (floor + 1)
  | false, false => none

/-- The shortest decimal that reads back as a magnitude other than zero. -/
def shortest (x : Binary64) : Decimal :=
  let nb := x.neighbourhood
  let place := decimalPlace nb.value nb.den
  let hit := (List.range 17).findSome? fun (k : Nat) =>
    let unit := place - ((k : Int) + 1)
    (nb.onGrid? unit).map fun count => Decimal.ofUnits count unit
  let units := nb.value * Nat.pow 10 (17 - place).toNat / (nb.den * Nat.pow 10 (place - 17).toNat)
  hit.getD (Decimal.ofUnits units (place - 17))

end Binary64

end CsvCleaning
