/-!
# Blank text

White space is the Unicode `White_Space` property, twenty-five characters in all. The zero-width
space and the byte-order mark do not have it, so a name made of them is not blank.
-/

namespace CsvCleaning.Text

/-- Decide whether a character has the Unicode `White_Space` property. -/
def isBlank (c : Char) : Bool :=
  let n := c.toNat
  (9 ≤ n && n ≤ 13) || n == 0x20 || n == 0x85 || n == 0xA0 || n == 0x1680 ||
    (0x2000 ≤ n && n ≤ 0x200A) || n == 0x2028 || n == 0x2029 || n == 0x202F || n == 0x205F ||
    n == 0x3000

/-- Decide whether a text holds nothing but white space; the empty text does. -/
def allBlank (s : String) : Bool :=
  s.toList.all isBlank

/-- The white space of the core library is blank. -/
theorem isBlank_of_isWhitespace {c : Char} (h : c.isWhitespace = true) : isBlank c = true := by
  simp only [Char.isWhitespace, Bool.or_eq_true, decide_eq_true_eq] at h
  rcases h with ((rfl | rfl) | rfl) | rfl <;> decide

/-- A text is blank exactly when each of its characters is. -/
theorem allBlank_iff {s : String} : allBlank s = true ↔ ∀ c ∈ s.toList, isBlank c = true := by
  simp [allBlank]

/-- The empty text is blank. -/
theorem allBlank_empty : allBlank "" = true := by
  simp [allBlank]

end CsvCleaning.Text
