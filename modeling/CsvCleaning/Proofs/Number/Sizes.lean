import CsvCleaning.Proofs.Number.Rounding
import CsvCleaning.Proofs.Text.Numerals
import CsvCleaning.Text.Split
import Mathlib.Algebra.Order.Field.Rat
import Mathlib.Algebra.Order.Ring.Abs
import Mathlib.Tactic.Linarith
import Mathlib.Tactic.NormNum

/-!
# Sizes as they are shown

A shown size can be read back: it is a number of hundredths of a unit. The unit is chosen by the size
before it is rounded, and the hundredths are rounded to the nearest. So a larger size is never shown as
less, and what is shown is at most half a hundredth of the unit away from the size. But a size that is
within half a hundredth of the next unit is shown as `1024` of its own.
-/

namespace CsvCleaning.ByteSize

/-! ### Reading a shown size -/

/-- The unit of a name. -/
def Unit.ofName? (name : String) : Option Unit :=
  [bytes, kilobytes, megabytes, gigabytes].find? (·.name == name)

/-- The number that a decimal numeral writes: digits, or digits with a point among them. -/
def decimal? (cs : List Char) : Option ℚ :=
  match Text.cutAt (· == '.') cs with
  | (whole, none) => (Digits.number? 10 whole).map fun n => n
  | (whole, some places) =>
    (Digits.number? 10 (whole ++ places)).map fun n => n / 10 ^ places.length

/-- Read a shown size: a number, a space and the name of a unit. -/
def read? (shown : String) : Option (ℚ × Unit) :=
  match Text.cutAt (· == ' ') shown.toList with
  | (_, none) => none
  | (number, some name) =>
    (decimal? number).bind fun x => (Unit.ofName? (String.ofList name)).map fun unit => (x, unit)

/-- Read a shown size as a number of bytes. -/
def readBytes? (shown : String) : Option ℚ :=
  (read? shown).map fun (x, unit) => x * unit.size

/-- A unit is told by its name. -/
theorem Unit.ofName?_name (unit : Unit) : ofName? unit.name = some unit := by
  cases unit <;> decide

/-- A numeral of digits is the number. -/
theorem decimal?_toDigits (n : Nat) : decimal? (Nat.toDigits 10 n) = some (n : ℚ) := by
  rw [decimal?, Text.cutAt_of_all (Digits.beq_of_mem_toDigits rfl n)]
  dsimp only
  rw [Digits.number?_toDigits]
  rfl

/-- Hundredths are written as a whole number, a point and two digits. -/
theorem toList_twoPlaces (h : Nat) :
    (twoPlaces h).toList = Nat.toDigits 10 (h / 100) ++
      '.' :: ([Nat.digitChar (h % 100 / 10)] ++ [Nat.digitChar (h % 10)]) := by
  rw [twoPlaces, String.toList_append, String.toList_append, Nat.toString_eq_ofList_toDigits,
    String.toList_ofList, String.toList_ofList, List.append_assoc]
  simp

/-- Hundredths are read back from what is written. -/
theorem decimal?_twoPlaces (h : Nat) : decimal? (twoPlaces h).toList = some ((h : ℚ) / 100) := by
  have hdigits : Digits.number? 10 (Nat.toDigits 10 (h / 100) ++
      ([Nat.digitChar (h % 100 / 10)] ++ [Nat.digitChar (h % 10)])) = some h := by
    rw [← List.append_assoc, Digits.number?, Digits.numberFrom?_concat, Digits.numberFrom?_concat,
      ← Digits.number?, Digits.number?_toDigits, Option.bind_some,
      Digits.numberFrom?_digitChar _ (by omega), Option.bind_some,
      Digits.numberFrom?_digitChar _ (by omega), Option.some.injEq]
    omega
  rw [toList_twoPlaces, decimal?,
    Text.cutAt_append_cons _ (Digits.beq_of_mem_toDigits rfl _) (by decide)]
  dsimp only
  rw [hdigits]
  norm_num

/-- There is no space in a number of hundredths. -/
theorem beq_space_of_mem_twoPlaces (h : Nat) : ∀ c ∈ (twoPlaces h).toList, (c == ' ') = false := by
  have hdigit : ∀ d : Fin 10, (Nat.digitChar d == ' ') = false := by decide
  intro c hc
  rw [toList_twoPlaces] at hc
  simp only [List.mem_append, List.mem_cons, List.not_mem_nil, or_false] at hc
  rcases hc with hc | rfl | rfl | rfl
  · exact Digits.beq_of_mem_toDigits rfl _ c hc
  · decide
  · exact hdigit ⟨h % 100 / 10, by omega⟩
  · exact hdigit ⟨h % 10, by omega⟩

/-- A shown size falls at its space into a number and the name of a unit. -/
theorem read?_of_toList {shown : String} {number : List Char} {x : ℚ} {unit : Unit}
    (hshown : shown.toList = number ++ ' ' :: unit.name.toList)
    (hspace : ∀ c ∈ number, (c == ' ') = false) (hx : decimal? number = some x) :
    read? shown = some (x, unit) := by
  rw [read?, hshown, Text.cutAt_append_cons _ hspace (by decide)]
  dsimp only
  rw [hx, String.ofList_toList, Unit.ofName?_name]
  rfl

/-! ### Units -/

/-- A unit is a byte at least. -/
theorem Unit.size_pos (unit : Unit) : 0 < unit.size := by
  cases unit <;> decide

/-- Units of the same size are the same. -/
theorem Unit.size_injective : Function.Injective Unit.size := by
  intro u v h
  cases u <;> cases v <;> first | rfl | exact absurd h (by decide)

/-- A unit is a whole number of every smaller one. -/
theorem Unit.size_dvd {u v : Unit} (h : u.size ≤ v.size) : u.size ∣ v.size := by
  revert h
  cases u <;> cases v <;> decide

/-- The unit of a size is the largest of which it is at least one, and bytes if it is zero. -/
theorem size_le_unitFor_iff {unit : Unit} {n : Nat} :
    unit.size ≤ (unitFor n).size ↔ unit.size ≤ max 1 n := by
  have hsizes : Nat.pow 1024 2 = 1048576 ∧ Nat.pow 1024 3 = 1073741824 := by decide
  unfold unitFor
  split_ifs <;> cases unit <;> simp only [Unit.size, hsizes] at * <;> omega

/-- A size is at least one of its unit. -/
theorem size_unitFor_le {n : Nat} (h : 1 ≤ n) : (unitFor n).size ≤ n :=
  (size_le_unitFor_iff.mp (Nat.le_refl _)).trans (Nat.max_le.mpr ⟨h, Nat.le_refl n⟩)

/-- A size below `1024` gigabytes is less than `1024` of its unit. -/
theorem lt_mul_size_unitFor {n : Nat} (h : n < Nat.pow 1024 4) : n < 1024 * (unitFor n).size := by
  have hsizes : Nat.pow 1024 2 = 1048576 ∧ Nat.pow 1024 3 = 1073741824 ∧
    Nat.pow 1024 4 = 1099511627776 := by decide
  unfold unitFor
  split_ifs <;> simp only [Unit.size, hsizes] at * <;> omega

/-! ### Hundredths of a unit -/

/-- Bytes are not rounded. -/
theorem hundredths_bytes (n : Nat) : hundredths n .bytes = n * 100 := by
  simpa only [hundredths, Unit.size, Nat.mul_one] using divHalfEven_mul (k := n * 100) Nat.one_pos

/-- A larger size is not fewer bytes when each is rounded to hundredths of its unit. -/
theorem hundredths_mul_size_mono {m n : Nat} (h : m ≤ n) :
    hundredths m (unitFor m) * (unitFor m).size ≤ hundredths n (unitFor n) * (unitFor n).size := by
  have hunits : (unitFor m).size ≤ (unitFor n).size :=
    size_le_unitFor_iff.mpr ((size_le_unitFor_iff.mp (Nat.le_refl _)).trans (by omega))
  rcases Nat.lt_or_eq_of_le hunits with hlt | heq
  · -- One of the larger unit lies between the two, and it is a whole number of the smaller units.
    have hm : m < (unitFor n).size := by
      have hnot := mt size_le_unitFor_iff.mpr (Nat.not_le.mpr hlt)
      omega
    have hn : (unitFor n).size ≤ n := by
      have hmax := size_le_unitFor_iff.mp (Nat.le_refl (unitFor n).size)
      have hpos := (unitFor m).size_pos
      omega
    obtain ⟨k, hk⟩ := Unit.size_dvd hunits
    have hupper : hundredths m (unitFor m) ≤ 100 * k := by
      refine divHalfEven_le (unitFor m).size_pos ?_
      rw [Nat.mul_assoc, Nat.mul_comm k, ← hk]
      omega
    have hlower : 100 ≤ hundredths n (unitFor n) :=
      le_divHalfEven (unitFor n).size_pos (by omega)
    calc hundredths m (unitFor m) * (unitFor m).size
        ≤ 100 * k * (unitFor m).size := Nat.mul_le_mul_right _ hupper
      _ = 100 * (unitFor n).size := by rw [hk, Nat.mul_assoc, Nat.mul_comm k]
      _ ≤ hundredths n (unitFor n) * (unitFor n).size := Nat.mul_le_mul_right _ hlower
  · rw [Unit.size_injective heq]
    exact Nat.mul_le_mul_right _ (divHalfEven_mono _ (Nat.mul_le_mul_right 100 h))

/-- Rounded to hundredths of a unit, a size changes by at most half of one. -/
theorem abs_hundredths_sub_le (n : Nat) (unit : Unit) :
    |(hundredths n unit : ℚ) / 100 * unit.size - n| ≤ (unit.size : ℚ) / 200 := by
  have hupper : (2 * (hundredths n unit * unit.size) : ℚ) ≤ 2 * (n * 100) + unit.size := by
    exact_mod_cast divHalfEven_mul_le (n * 100) unit.size
  have hlower : (2 * (n * 100) : ℚ) ≤ 2 * (hundredths n unit * unit.size) + unit.size := by
    exact_mod_cast le_divHalfEven_mul (n * 100) unit.size_pos
  rw [abs_le]
  constructor <;> linarith

/-- A size is rounded to less than `1024` of a unit if it is more than half a hundredth below that. No
size is just there, since five divides no unit. -/
theorem hundredths_lt_iff {n : Nat} {unit : Unit} :
    hundredths n unit < 102400 ↔ 200 * n < 204799 * unit.size := by
  have hsizes : Nat.pow 1024 2 = 1048576 ∧ Nat.pow 1024 3 = 1073741824 := by decide
  have hupper := divHalfEven_mul_le (n * 100) unit.size
  have hlower := le_divHalfEven_mul (n * 100) unit.size_pos
  unfold hundredths
  cases unit <;> simp only [Unit.size, hsizes] at * <;> omega

/-! ### What is shown -/

/-- A size that is shown in bytes was not rounded. -/
theorem roundTo53_of_bytes {n : Nat} (h : unitFor (roundTo53 n) = .bytes) : roundTo53 n = n := by
  rcases Nat.lt_or_ge n (Nat.pow 2 53) with hn | hn
  · exact roundTo53_of_lt hn
  · have hfew : ¬ Unit.kilobytes.size ≤ max 1 (roundTo53 n) :=
      mt size_le_unitFor_iff.mpr (by rw [h]; decide)
    have hmany : Unit.kilobytes.size ≤ roundTo53 n :=
      calc Unit.kilobytes.size ≤ roundTo53 (Nat.pow 2 53) := by decide
        _ ≤ roundTo53 n := roundTo53_mono hn
    omega

/-- A shown size is read back as hundredths of its unit. -/
theorem read?_format (n : Nat) :
    read? (format n) = some ((hundredths (roundTo53 n) (unitFor (roundTo53 n)) : ℚ) / 100,
      unitFor (roundTo53 n)) := by
  by_cases hbytes : unitFor (roundTo53 n) = .bytes
  · have hformat : format n = toString n ++ " Bytes" := by
      simp only [format, hbytes]
    rw [hbytes, roundTo53_of_bytes hbytes, hundredths_bytes]
    have hdecimal : decimal? (Nat.toDigits 10 n) = some (((n * 100 : ℕ) : ℚ) / 100) := by
      rw [decimal?_toDigits]
      norm_num
    refine read?_of_toList ?_ (Digits.beq_of_mem_toDigits rfl n) hdecimal
    rw [hformat, String.toList_append, Nat.toString_eq_ofList_toDigits, String.toList_ofList]
    rfl
  · have hformat : format n =
        twoPlaces (hundredths (roundTo53 n) (unitFor (roundTo53 n))) ++ " " ++
          (unitFor (roundTo53 n)).name := by
      unfold format
      dsimp only
      split
      · contradiction
      · rfl
    refine read?_of_toList ?_ (beq_space_of_mem_twoPlaces _) (decimal?_twoPlaces _)
    rw [hformat, String.toList_append, String.toList_append, List.append_assoc]
    rfl

/-- Sizes are shown in order and nearly exactly. A larger size is never shown as less, also in another
unit and if it is too large for 53 bits. What is shown of a size of at most 53 bits differs from it by at
most half a hundredth of the unit, and below `1024` bytes it is the size. -/
theorem format_keeps_order_and_size :
    (∀ m n : Nat, m ≤ n → ∃ x y : ℚ,
      readBytes? (format m) = some x ∧ readBytes? (format n) = some y ∧ x ≤ y) ∧
    (∀ n < Nat.pow 2 53, ∃ x unit, read? (format n) = some (x, unit) ∧
      |x * unit.size - n| ≤ (unit.size : ℚ) / 200) ∧
    ∀ n < 1024, readBytes? (format n) = some (n : ℚ) := by
  refine ⟨fun m n h => ?order, fun n h => ?size, fun n h => ?exact⟩
  case order =>
    refine ⟨_, _, congrArg _ (read?_format m), congrArg _ (read?_format n), ?_⟩
    have hbytes : (hundredths (roundTo53 m) (unitFor (roundTo53 m)) *
        (unitFor (roundTo53 m)).size : ℚ) ≤ hundredths (roundTo53 n) (unitFor (roundTo53 n)) *
        (unitFor (roundTo53 n)).size := by
      exact_mod_cast hundredths_mul_size_mono (roundTo53_mono h)
    linarith
  case size =>
    rw [read?_format, roundTo53_of_lt h]
    exact ⟨_, _, rfl, abs_hundredths_sub_le n _⟩
  case exact =>
    have hn : roundTo53 n = n := roundTo53_of_lt (h.trans (by decide))
    have hunit : unitFor n = .bytes := if_pos h
    rw [readBytes?, read?_format, hn, hunit, hundredths_bytes, Option.map_some, Option.some.injEq]
    push_cast [Unit.size]
    linarith

/-- A size below `1024` gigabytes is shown in the unit that fits it, of which it is at least one and less
than `1024`. The number that is shown is at least one and at most `1024`, and it is less than `1024`
exactly if the size is more than half a hundredth of the unit below that. -/
theorem format_fits_unit_unless_rounded_up {n : Nat} (one : 1 ≤ n) (large : n < Nat.pow 1024 4) :
    ∃ x unit, read? (format n) = some (x, unit) ∧ unit.size ≤ n ∧ n < 1024 * unit.size ∧
      1 ≤ x ∧ x ≤ 1024 ∧ (x < 1024 ↔ (unit.size : ℚ) / 200 < 1024 * unit.size - n) := by
  have hfits := size_unitFor_le one
  have hbelow := lt_mul_size_unitFor large
  have hlower : (100 : ℚ) ≤ hundredths n (unitFor n) := by
    exact_mod_cast le_divHalfEven (unitFor n).size_pos (by omega)
  have hupper : (hundredths n (unitFor n) : ℚ) ≤ 102400 := by
    exact_mod_cast divHalfEven_le (unitFor n).size_pos (by omega)
  have hless : (hundredths n (unitFor n) : ℚ) < 102400 ↔ (200 * n : ℚ) < 204799 * (unitFor n).size := by
    exact_mod_cast hundredths_lt_iff
  rw [read?_format, roundTo53_of_lt (large.trans (by decide))]
  refine ⟨_, _, rfl, hfits, hbelow, by linarith, by linarith, ?_⟩
  rw [div_lt_iff₀ (by norm_num), show (1024 : ℚ) * 100 = 102400 by norm_num, hless]
  constructor <;> intro h <;> linarith

/-- Six bytes below a megabyte are shown in kilobytes, less than `1024` of them. -/
theorem format_fits_kilobytes :
    1 ≤ 1048570 ∧ 1048570 < Nat.pow 1024 4 ∧
      ∃ x unit, read? (format 1048570) = some (x, unit) ∧ unit.size ≤ 1048570 ∧
        1048570 < 1024 * unit.size ∧ 1 ≤ x ∧ x < 1024 := by
  obtain ⟨x, unit, hread, hfits, hbelow, hone, -, hless⟩ :=
    format_fits_unit_unless_rounded_up (n := 1048570) (by decide) (by decide)
  refine ⟨by decide, by decide, x, unit, hread, hfits, hbelow, hone, hless.mpr ?_⟩
  obtain rfl : unit = .kilobytes := by
    revert hfits hbelow
    cases unit <;> decide
  norm_num [Unit.size]

/-- One byte below a megabyte is shown as `1024` kilobytes, though a megabyte is the next unit. -/
theorem format_rounds_up_to_next_unit :
    format 1048575 = "1024.00 KB" ∧ format 1048576 = "1.00 MB" ∧
      ¬ ∃ x unit, read? (format 1048575) = some (x, unit) ∧ 1 ≤ x ∧ x < 1024 := by
  refine ⟨by decide +kernel, by decide +kernel, ?_⟩
  rintro ⟨x, unit, hread, -, hless⟩
  have hshown : hundredths (roundTo53 1048575) (unitFor (roundTo53 1048575)) = 102400 := by decide
  rw [read?_format, hshown] at hread
  obtain ⟨rfl, -⟩ := Prod.mk.inj (Option.some.inj hread)
  norm_num at hless

end CsvCleaning.ByteSize
