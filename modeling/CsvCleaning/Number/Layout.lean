import CsvCleaning.Number.Shortest

/-!
# Writing numbers

A layout says which numbers are written positionally and whether a whole number keeps a point.
Cells and durations use `plain`, numbers inside JSON text use `compact`.
-/

namespace CsvCleaning

/-- How the shortest digits of a number are laid out. -/
structure NumberLayout where
  /-- Whether a number whose first digit stands for `10^e` is written without an exponent. -/
  isPositional : Int → Bool
  /-- Whether a whole number ends in `.0`. -/
  keepsPoint : Bool

namespace NumberLayout

/-- Never an exponent, and no point in a whole number. -/
def plain : NumberLayout :=
  ⟨fun _ => true, false⟩

/-- Positional from `1e-5` up to below `1e16`, and a whole number keeps its point. -/
def compact : NumberLayout :=
  ⟨fun e => -5 ≤ e && e < 16, true⟩

/-- Write digits with the point at its place, ending in `.0` if asked for. -/
def positional (keepsPoint : Bool) (d : Decimal) : List Char :=
  let n := d.digits.length
  if d.point ≤ 0 then '0' :: '.' :: (List.replicate (-d.point).toNat '0' ++ d.digits)
  else if (n : Int) ≤ d.point then
    d.digits ++ List.replicate (d.point - n).toNat '0' ++ (if keepsPoint then ['.', '0'] else [])
  else d.digits.take d.point.toNat ++ '.' :: d.digits.drop d.point.toNat

/-- Write digits with a point after the first and a signed exponent. -/
def scientific (d : Decimal) : List Char :=
  let e := d.point - 1
  let fraction := d.digits.drop 1
  d.digits.take 1 ++ (if fraction.isEmpty then [] else '.' :: fraction) ++
    'e' :: (if e < 0 then '-' else '+') :: Nat.toDigits 10 e.natAbs

/-- Write a magnitude. -/
def magnitude (layout : NumberLayout) (x : Binary64) : List Char :=
  if x.isZero then if layout.keepsPoint then ['0', '.', '0'] else ['0']
  else
    let d := x.shortest
    if layout.isPositional (d.point - 1) then positional layout.keepsPoint d else scientific d

/-- Write a number; a negative zero keeps its sign. -/
def write (layout : NumberLayout) (x : Binary64) : String :=
  String.ofList ((if x.negative then ['-'] else []) ++ layout.magnitude x)

end NumberLayout

end CsvCleaning
