import CsvCleaning.Number.Shortest
import CsvCleaning.Proofs.Text.Numerals
import Mathlib.Data.Nat.Digits.Defs

/-!
# The first digit of the shortest decimal

The shortest decimal of a number other than zero has digits, and the first of them is not a zero: it is a
count of units that lies in an interval above zero, or else the number cut off after its first seventeen
places.
-/

namespace CsvCleaning

namespace Decimal

/-- To remove the zeros at the end of digits leaves the first digit, if that is not one of them. -/
theorem head?_stripZeros {c : Char} (hc : c ≠ '0') (cs : List Char) :
    (stripZeros (c :: cs)).head? = some c := by
  have hkept : [c].dropWhile (· == '0') = [c] := by simp [hc]
  rw [stripZeros, List.reverse_cons, List.dropWhile_append, hkept]
  split <;> simp

/-- The digits of some units, but not of none, begin with one other than zero. -/
theorem exists_digits_ofUnits {count : Nat} (h : 0 < count) (unit : Int) :
    ∃ c cs, (ofUnits count unit).digits = c :: cs ∧ c ≠ '0' := by
  cases hdigits : Nat.toDigits 10 count with
  | nil => exact absurd hdigits Nat.toDigits_ne_nil
  | cons c cs =>
    have hc : c ≠ '0' := by
      intro hc
      apply Digits.head?_toDigits_ne h
      rw [hdigits, hc, List.head?_cons]
    obtain ⟨more, hmore⟩ := List.head?_eq_some_iff.mp (head?_stripZeros hc cs)
    refine ⟨c, more, ?_, hc⟩
    rw [ofUnits, hdigits, hmore]

end Decimal

namespace Binary64

/-- A number on a grid lies in the interval. -/
theorem Neighbourhood.has_of_onGrid? {nb : Neighbourhood} {unit : Int} {count : Nat}
    (h : nb.onGrid? unit = some count) : nb.has count unit = true := by
  unfold onGrid? at h
  dsimp only at h
  split at h
  · rename_i hfloor hnext
    have hcases (p : Prop) [Decidable p] (m n : Nat) :
        (if p then m else n) = m ∨ (if p then m else n) = n := by
      by_cases hp : p <;> simp [hp]
    split at h
    · exact Option.some.inj h ▸ hfloor
    · split at h
      · exact Option.some.inj h ▸ hnext
      · have heq := Option.some.inj h
        split at heq
        · exact heq ▸ hfloor
        · exact heq ▸ hnext
  · rename_i hfloor _
    exact Option.some.inj h ▸ hfloor
  · rename_i _ hnext
    exact Option.some.inj h ▸ hnext
  · cases h

/-- What lies in an interval above zero is not zero. -/
theorem Neighbourhood.pos_of_has {nb : Neighbourhood} (hlow : 0 < nb.low) {unit : Int} {count : Nat}
    (h : nb.has count unit = true) : 0 < count := by
  have hscale : 0 < Nat.pow 10 (-unit).toNat := Nat.pow_pos (by decide)
  have hbound : nb.low * Nat.pow 10 (-unit).toNat ≤ count * Nat.pow 10 unit.toNat * nb.den := by
    unfold has at h
    dsimp only at h
    split at h
    · exact of_decide_eq_true (Bool.and_eq_true_iff.mp h).1
    · exact Nat.le_of_lt (of_decide_eq_true (Bool.and_eq_true_iff.mp h).1)
  rw [Nat.pos_iff_ne_zero]
  intro hzero
  rw [hzero, Nat.zero_mul, Nat.zero_mul] at hbound
  have hpos := Nat.mul_pos hlow hscale
  omega

/-- The first seventeen places of a quotient hold a digit other than zero, if one of its first places does. -/
theorem le_units {num den : Nat} (hplace : ∃ k < 400, den ≤ num * Nat.pow 10 (k + 1)) :
    den * Nat.pow 10 (decimalPlace num den - 17).toNat ≤
      num * Nat.pow 10 (17 - decimalPlace num den).toNat := by
  have hpow (k : Nat) : 1 ≤ Nat.pow 10 k := Nat.pow_pos (by decide)
  unfold decimalPlace
  split
  · rename_i hle
    generalize hlength : (Nat.toDigits 10 (num / den)).length = length
    by_cases hlong : length ≤ 17
    · have hzero : ((length : Int) - 17).toNat = 0 := by omega
      rw [hzero]
      exact Nat.mul_le_mul hle (hpow _)
    · -- There are more places than that before the point.
      have hzero : (17 - (length : Int)).toNat = 0 := by omega
      have hmany : 10 ^ (length - 1) ≤ num / den := by
        refine Nat.le_of_not_lt fun hlt => ?_
        have hfewer := (Nat.length_toDigits_le_iff (by decide) (by omega)).mpr hlt
        omega
      have hexponent : Nat.pow 10 ((length : Int) - 17).toNat ≤ 10 ^ (length - 1) :=
        Nat.pow_le_pow_right (by decide) (by omega)
      rw [hzero]
      calc den * Nat.pow 10 ((length : Int) - 17).toNat
          ≤ den * (num / den) := Nat.mul_le_mul_left den (Nat.le_trans hexponent hmany)
        _ ≤ num := Nat.mul_div_le num den
        _ = num * Nat.pow 10 0 := (Nat.mul_one num).symm
  · split
    · rename_i k hk
      have hzero : (-(k : Int) - 17).toNat = 0 := by omega
      have hfirst : den ≤ num * Nat.pow 10 (k + 1) := by simpa using List.find?_some hk
      have hexponent : Nat.pow 10 (k + 1) ≤ Nat.pow 10 (17 - -(k : Int)).toNat :=
        Nat.pow_le_pow_right (by decide) (by omega)
      rw [hzero]
      exact (Nat.mul_one den).le.trans (hfirst.trans (Nat.mul_le_mul_left num hexponent))
    · rename_i hnone
      obtain ⟨k, hk, hfirst⟩ := hplace
      exact absurd (decide_eq_true hfirst) (List.find?_eq_none.mp hnone k (List.mem_range.mpr hk))

variable {x : Binary64}

/-- The interval of a number other than zero is above zero. -/
theorem neighbourhood_low_pos (h : x.isZero = false) : 0 < x.neighbourhood.low := by
  have hmantissa : x.mantissa ≠ 0 := by simpa [isZero] using h
  have hup : 0 < Nat.pow 2 (x.exponent - 2).toNat := Nat.pow_pos (by decide)
  refine Nat.mul_pos ?_ hup
  split <;> omega

/-- A number other than zero has a digit other than zero in its first places. -/
theorem exists_place (h : x.isZero = false) (hexponent : -1074 ≤ x.exponent) :
    ∃ k < 400, x.neighbourhood.den ≤ x.neighbourhood.value * Nat.pow 10 (k + 1) := by
  have hmantissa : x.mantissa ≠ 0 := by simpa [isZero] using h
  have hup : 0 < Nat.pow 2 (x.exponent - 2).toNat := Nat.pow_pos (by decide)
  have hvalue : 1 ≤ x.neighbourhood.value := Nat.mul_pos (by omega) hup
  obtain ⟨n, hn⟩ : ∃ n, (-(x.exponent - 2)).toNat = n := ⟨_, rfl⟩
  refine ⟨n / 3, by omega, ?_⟩
  -- Three binary places are less than one decimal place.
  calc x.neighbourhood.den
      = Nat.pow 2 n := congrArg (Nat.pow 2) hn
    _ ≤ Nat.pow 2 (3 * (n / 3 + 1)) := Nat.pow_le_pow_right (by decide) (by omega)
    _ = Nat.pow (Nat.pow 2 3) (n / 3 + 1) := Nat.pow_mul 2 3 _
    _ ≤ Nat.pow 10 (n / 3 + 1) := Nat.pow_le_pow_left (by decide) _
    _ ≤ x.neighbourhood.value * Nat.pow 10 (n / 3 + 1) := Nat.le_mul_of_pos_left _ hvalue

/-- The shortest decimal of a number other than zero begins with a digit other than zero. -/
theorem exists_digits_shortest (h : x.isZero = false) (hexponent : -1074 ≤ x.exponent) :
    ∃ c cs, x.shortest.digits = c :: cs ∧ c ≠ '0' := by
  unfold shortest
  dsimp only
  generalize hhit : List.findSome? _ (List.range 17) = hit
  cases hit with
  | none =>
    refine Decimal.exists_digits_ofUnits ?_ _
    have hunits := le_units (exists_place h hexponent)
    refine Nat.div_pos hunits (Nat.mul_pos ?_ (Nat.pow_pos (by decide)))
    exact Nat.pow_pos (by decide)
  | some d =>
    obtain ⟨k, -, hk⟩ := List.exists_of_findSome?_eq_some hhit
    obtain ⟨count, hcount, rfl⟩ := Option.map_eq_some_iff.mp hk
    have hhas := Neighbourhood.has_of_onGrid? hcount
    exact Decimal.exists_digits_ofUnits (Neighbourhood.pos_of_has (neighbourhood_low_pos h) hhas) _

end Binary64

end CsvCleaning
