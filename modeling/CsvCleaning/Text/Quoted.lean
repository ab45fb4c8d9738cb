import CsvCleaning.Text.CaseTables
import CsvCleaning.Text.PrintableTables

/-!
# Texts quoted in a diagnostic

A message that shows a text which was read puts it in quotes, with everything escaped that would
not be seen as itself.
-/

namespace CsvCleaning.Text

/-- Decide whether a character is written by its code point. -/
def needsCodePoint (c : Char) : Bool :=
  let n := c.toNat
  if 0x20 ≤ n ∧ n < 0x7F then false
  else inRanges extendingRanges n || inRanges unprintableRanges n

/-- Write one character inside quotes. -/
def showChar (c : Char) : List Char :=
  if c = '\"' then ['\\', '\"']
  else if c = '\\' then ['\\', '\\']
  else if c = '\n' then ['\\', 'n']
  else if c = '\r' then ['\\', 'r']
  else if c = '\t' then ['\\', 't']
  else if c.toNat = 0 then ['\\', '0']
  else if needsCodePoint c then
    ['\\', 'u', '\x7b'] ++ Nat.toDigits 16 c.toNat ++ ['\x7d']
  else [c]

/-- Write a text inside quotes for a reader. -/
def quoted (s : String) : String :=
  String.ofList ('\"' :: (s.toList.flatMap showChar ++ ['\"']))

end CsvCleaning.Text
