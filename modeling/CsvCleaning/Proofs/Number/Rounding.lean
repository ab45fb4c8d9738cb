import CsvCleaning.ByteSize
import Mathlib.Tactic.SplitIfs

/-!
# Rounding to the nearest

A quotient that is rounded to the nearest whole number is at most a half away from the exact one, and a
larger number never gives less. The same order is kept by rounding to 53 bits: numbers between the same
powers of two become multiples of the same unit, and no number passes a power of two.
-/

namespace CsvCleaning

/-! ### Quotients -/

section Rounding

variable {m n d k : Nat}

/-- Rounding keeps the order of what is divided. -/
theorem divHalfEven_mono (d : Nat) (h : m ≤ n) : divHalfEven m d ≤ divHalfEven n d := by
  have hquotient : m / d ≤ n / d := Nat.div_le_div_right h
  have hm := Nat.div_add_mod m d
  have hn := Nat.div_add_mod n d
  unfold divHalfEven
  dsimp only
  rcases Nat.lt_or_eq_of_le hquotient with hlt | heq
  · split_ifs <;> omega
  · rw [heq] at hm ⊢
    split_ifs <;> omega

/-- A rounded quotient is at most a half too large. -/
theorem divHalfEven_mul_le (n d : Nat) : 2 * (divHalfEven n d * d) ≤ 2 * n + d := by
  have hn := Nat.div_add_mod' n d
  have hnext : (n / d + 1) * d = n / d * d + d := Nat.succ_mul _ _
  unfold divHalfEven
  dsimp only
  split_ifs <;> omega

/-- A rounded quotient is at most a half too small. -/
theorem le_divHalfEven_mul (n : Nat) (hd : 0 < d) : 2 * n ≤ 2 * (divHalfEven n d * d) + d := by
  have hn := Nat.div_add_mod' n d
  have hnext : (n / d + 1) * d = n / d * d + d := Nat.succ_mul _ _
  have hrest := Nat.mod_lt n hd
  unfold divHalfEven
  dsimp only
  split_ifs <;> omega

/-- What is at most a multiple is at most so many when it is rounded. -/
theorem divHalfEven_le (hd : 0 < d) (h : n ≤ k * d) : divHalfEven n d ≤ k := by
  simpa only [divHalfEven_mul hd] using divHalfEven_mono d h

/-- What is at least a multiple is at least so many when it is rounded. -/
theorem le_divHalfEven (hd : 0 < d) (h : k * d ≤ n) : k ≤ divHalfEven n d := by
  simpa only [divHalfEven_mul hd] using divHalfEven_mono d h

end Rounding

/-! ### Numbers of 53 bits -/

namespace ByteSize

/-- A number of more than 53 bits stays between the powers of two around it. -/
theorem roundTo53_bounds {n : Nat} (h : Nat.pow 2 53 ≤ n) :
    Nat.pow 2 n.log2 ≤ roundTo53 n ∧ roundTo53 n ≤ Nat.pow 2 (n.log2 + 1) := by
  have hn : n ≠ 0 := Nat.ne_of_gt (Nat.lt_of_lt_of_le (by decide) h)
  have hlow : Nat.pow 2 n.log2 ≤ n := Nat.log2_self_le hn
  have hhigh : n < Nat.pow 2 (n.log2 + 1) := Nat.lt_log2_self
  have hbits : 53 ≤ n.log2 := (Nat.le_log2 hn).mpr h
  have hunit : 0 < Nat.pow 2 (n.log2 - 52) := Nat.pow_pos (by decide)
  have hfirst : Nat.pow 2 n.log2 = Nat.pow 2 52 * Nat.pow 2 (n.log2 - 52) := by
    rw [Nat.pow_eq, Nat.pow_eq, Nat.pow_eq, ← Nat.pow_add]
    congr 1
    omega
  have hlast : Nat.pow 2 (n.log2 + 1) = Nat.pow 2 53 * Nat.pow 2 (n.log2 - 52) := by
    rw [Nat.pow_eq, Nat.pow_eq, Nat.pow_eq, ← Nat.pow_add]
    congr 1
    omega
  rw [roundTo53, if_neg (Nat.not_lt.mpr h)]
  dsimp only
  constructor
  · rw [hfirst]
    exact Nat.mul_le_mul_right _ (le_divHalfEven hunit (hfirst ▸ hlow))
  · rw [hlast]
    exact Nat.mul_le_mul_right _ (divHalfEven_le hunit (hlast ▸ Nat.le_of_lt hhigh))

/-- Rounding to 53 bits keeps the order. -/
theorem roundTo53_mono {m n : Nat} (h : m ≤ n) : roundTo53 m ≤ roundTo53 n := by
  rcases Nat.lt_or_ge n (Nat.pow 2 53) with hn | hn
  · rwa [roundTo53_of_lt hn, roundTo53_of_lt (Nat.lt_of_le_of_lt h hn)]
  have hn' : n ≠ 0 := Nat.ne_of_gt (Nat.lt_of_lt_of_le (by decide) hn)
  obtain ⟨hlow, -⟩ := roundTo53_bounds hn
  rcases Nat.lt_or_ge m (Nat.pow 2 53) with hm | hm
  · rw [roundTo53_of_lt hm]
    calc m ≤ Nat.pow 2 53 := Nat.le_of_lt hm
      _ ≤ Nat.pow 2 n.log2 := Nat.pow_le_pow_right (by decide) ((Nat.le_log2 hn').mpr hn)
      _ ≤ roundTo53 n := hlow
  have hm' : m ≠ 0 := Nat.ne_of_gt (Nat.lt_of_lt_of_le (by decide) hm)
  have hbits : m.log2 ≤ n.log2 := (Nat.le_log2 hn').mpr (Nat.le_trans (Nat.log2_self_le hm') h)
  rcases Nat.lt_or_eq_of_le hbits with hlt | heq
  · calc roundTo53 m ≤ Nat.pow 2 (m.log2 + 1) := (roundTo53_bounds hm).2
      _ ≤ Nat.pow 2 n.log2 := Nat.pow_le_pow_right (by decide) hlt
      _ ≤ roundTo53 n := hlow
  · -- Both are rounded to multiples of the same power.
    rw [roundTo53, if_neg (Nat.not_lt.mpr hm), roundTo53, if_neg (Nat.not_lt.mpr hn), heq]
    exact Nat.mul_le_mul_right _ (divHalfEven_mono _ h)

end ByteSize

end CsvCleaning
