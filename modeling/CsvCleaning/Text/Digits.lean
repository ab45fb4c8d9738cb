/-!
# Digits

Digits of bases up to sixteen are read in either case, by their character codes, and written in
the case that a format asks for.
-/

namespace CsvCleaning.Digits

/-- The value of the digit with a character code. -/
def value? (code : Nat) : Option Nat :=
  if 0x30 ≤ code ∧ code ≤ 0x39 then some (code - 0x30)
  else if 0x41 ≤ code ∧ code ≤ 0x46 then some (code - 0x41 + 10)
  else if 0x61 ≤ code ∧ code ≤ 0x66 then some (code - 0x61 + 10)
  else none

/-- Read on in a base after digits that made a number. -/
def numberFrom? (base read : Nat) : List Char → Option Nat
  | [] => some read
  | c :: rest =>
    match value? c.toNat with
    | some d => if d < base then numberFrom? base (read * base + d) rest else none
    | none => none

/-- The number that digits of a base write; no digits write zero. -/
def number? (base : Nat) (cs : List Char) : Option Nat :=
  numberFrom? base 0 cs

/-- The lower-case digit of a value below sixteen. -/
def lower (n : Nat) : Char :=
  Nat.digitChar n

/-- The upper-case digit of a value below sixteen. -/
def upper (n : Nat) : Char :=
  if n < 10 then Char.ofNat (0x30 + n) else Char.ofNat (0x37 + n)

/-- An upper-case digit reads as the value that it was written for. -/
theorem value?_upper {n : Nat} (h : n < 16) : value? (upper n).toNat = some n := by
  have all : ∀ m : Fin 16, value? (upper m).toNat = some m.val := by decide
  exact all ⟨n, h⟩

/-- The value of a digit is below sixteen. -/
theorem value?_lt {code n : Nat} (h : value? code = some n) : n < 16 := by
  unfold value? at h
  split at h
  · cases h; omega
  · split at h
    · cases h; omega
    · split at h
      · cases h; omega
      · cases h

end CsvCleaning.Digits
