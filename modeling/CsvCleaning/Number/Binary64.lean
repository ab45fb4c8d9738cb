/-!
# Binary64 numbers, exactly

A finite binary64 value is a sign, a whole mantissa and a power of two. Every operation computes
the exact quotient and rounds it once, to the nearest value and a half to the even mantissa.
-/

namespace CsvCleaning

/-- Divide and round to the nearest whole number, a half to the even neighbour. -/
def divHalfEven (n d : Nat) : Nat :=
  let q := n / d
  let r := n % d
  if 2 * r < d then q
  else if d < 2 * r then q + 1
  else if q % 2 = 0 then q else q + 1

/-- Divide and round to the nearest whole number, a half upwards. -/
def divHalfUp (n d : Nat) : Nat :=
  (2 * n + d) / (2 * d)

/-- A whole quotient stays as it is. -/
theorem divHalfEven_mul {k d : Nat} (hd : 0 < d) : divHalfEven (k * d) d = k := by
  simp [divHalfEven, Nat.mul_div_cancel _ hd, hd]

/-- The finite value `(-1)^negative · mantissa · 2^exponent`. A value has one canonical form:
the mantissa is below `2^53`, and at least `2^52` unless the exponent is the least, `-1074`. -/
structure Binary64 where
  negative : Bool
  mantissa : Nat
  exponent : Int
deriving DecidableEq, Repr

namespace Binary64

/-- Zero with a sign. -/
def zero (negative : Bool) : Binary64 :=
  ⟨negative, 0, -1074⟩

/-- Decide whether a value is zero of either sign. -/
def isZero (x : Binary64) : Bool :=
  x.mantissa == 0

/-- The magnitude as a numerator over a denominator. -/
def ratio (x : Binary64) : Nat × Nat :=
  (x.mantissa * Nat.pow 2 x.exponent.toNat, Nat.pow 2 (-x.exponent).toNat)

/-- The exponent of the last place when `num / den` is written with 53 bits. -/
def lastPlace (num den : Nat) : Int :=
  let guess : Int := (num.log2 : Int) - den.log2 - 52
  let short := num * Nat.pow 2 (-guess).toNat < den * Nat.pow 2 guess.toNat * Nat.pow 2 52
  max (if short then guess - 1 else guess) (-1074)

/-- Round the quotient of two numbers to the nearest value; `none` when it is too large. -/
def ofQuotient? (negative : Bool) (num den : Nat) : Option Binary64 :=
  if num = 0 then some (zero negative)
  else
    let e := lastPlace num den
    let m := divHalfEven (num * Nat.pow 2 (-e).toNat) (den * Nat.pow 2 e.toNat)
    let carried := if m = Nat.pow 2 53 then (Nat.pow 2 52, e + 1) else (m, e)
    if carried.2 > 971 then none else some ⟨negative, carried.1, carried.2⟩

/-- The value nearest to a whole number. -/
def ofNat? (n : Nat) : Option Binary64 :=
  ofQuotient? false n 1

/-- The product, rounded once. -/
def mul? (x y : Binary64) : Option Binary64 :=
  ofQuotient? (x.negative != y.negative) (x.ratio.1 * y.ratio.1) (x.ratio.2 * y.ratio.2)

/-- The quotient by a value other than zero, rounded once. -/
def div? (x y : Binary64) : Option Binary64 :=
  ofQuotient? (x.negative != y.negative) (x.ratio.1 * y.ratio.2) (x.ratio.2 * y.ratio.1)

/-- The sum of two magnitudes, rounded once. -/
def addMagnitudes? (x y : Binary64) : Option Binary64 :=
  ofQuotient? false (x.ratio.1 * y.ratio.2 + y.ratio.1 * x.ratio.2) (x.ratio.2 * y.ratio.2)

/-- Give a value the sign. -/
def withSign (negative : Bool) (x : Binary64) : Binary64 :=
  { x with negative := negative }

/-- The value nearest to `significand · 10^exponent`. -/
def ofDecimal? (negative : Bool) (significand : Nat) (exponent : Int) : Option Binary64 :=
  ofQuotient? negative (significand * Nat.pow 10 exponent.toNat) (Nat.pow 10 (-exponent).toNat)

/-- The magnitude rounded to a whole number, a half away from zero. -/
def roundMagnitude (x : Binary64) : Nat :=
  divHalfUp x.ratio.1 x.ratio.2

/-- Nothing but zero has a zero numerator. -/
theorem ratio_fst_eq_zero_iff (x : Binary64) : x.ratio.1 = 0 ↔ x.isZero = true := by
  have power : 0 < Nat.pow 2 x.exponent.toNat := Nat.pow_pos (by decide)
  constructor
  · intro h
    rcases Nat.mul_eq_zero.1 h with zero | zero
    · exact beq_iff_eq.2 zero
    · omega
  · intro h
    have zero : x.mantissa = 0 := beq_iff_eq.1 h
    rw [ratio, zero]
    exact Nat.zero_mul _

/-- Zero divided by anything is zero with the sign asked for. -/
theorem ofQuotient?_zero (negative : Bool) (den : Nat) :
    ofQuotient? negative 0 den = some (zero negative) := by
  simp [ofQuotient?]

end Binary64

end CsvCleaning
