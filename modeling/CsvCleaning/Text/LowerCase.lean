import CsvCleaning.Text.CaseTables

/-!
# Lower-casing

Full Unicode lower-casing. Each character has one lower-case form whatever stands around it, with
two exceptions: `İ` becomes two characters, and `Σ` becomes `ς` at the end of a word and `σ`
elsewhere, so the form of a text is not the forms of its parts put together.
-/

namespace CsvCleaning.Text

/-- The lower-case form of a character that does not look at its surroundings. -/
def lowerChar (c : Char) : List Char :=
  let n := c.toNat
  if n < 0x80 then [c.toLower]
  else if n = 0x130 then ['i', Char.ofNat 0x307]
  else
    match lowerRuns.find? (·.has n) with
    | some run => [Char.ofNat (n + run.shift).toNat]
    | none => [c]

/-- Decide whether the first character that is not case-ignorable exists and is cased. -/
def meetsCased (cs : List Char) : Bool :=
  match cs.dropWhile fun c => inRanges caseIgnorableRanges c.toNat with
  | [] => false
  | c :: _ => inRanges casedRanges c.toNat

/-- Decide whether a word ends between the reversed text before and the text after: a letter
stands before and none after. -/
def isWordEnd (before after : List Char) : Bool :=
  meetsCased before && !meetsCased after

/-- The capital sigma, the one letter whose lower-case form depends on its place. -/
def capitalSigma : Char :=
  Char.ofNat 0x3A3

/-- The lower-case sigma inside a word. -/
def smallSigma : Char :=
  Char.ofNat 0x3C3

/-- The lower-case sigma at the end of a word. -/
def finalSigma : Char :=
  Char.ofNat 0x3C2

/-- Lower-case characters, given those before them in reverse. -/
def lowerAfter : List Char → List Char → List Char
  | _, [] => []
  | before, c :: rest =>
    (if c = capitalSigma then [if isWordEnd before rest then finalSigma else smallSigma]
     else lowerChar c) ++ lowerAfter (c :: before) rest

/-- The lower-case form of a sequence of characters. -/
def lower (cs : List Char) : List Char :=
  lowerAfter [] cs

/-- The empty text is its own lower-case form. -/
theorem lower_nil : lower [] = [] := rfl

/-- A lone capital sigma ends no word. -/
theorem lower_capitalSigma : lower [capitalSigma] = [smallSigma] := by decide +kernel

/-- After a letter a last capital sigma is final. -/
theorem lower_letter_capitalSigma : lower ['A', capitalSigma] = ['a', finalSigma] := by
  decide +kernel

/-- The dotted capital I has a lower-case form of two characters. -/
theorem lowerChar_dotted : lowerChar (Char.ofNat 0x130) = ['i', Char.ofNat 0x307] := rfl

end CsvCleaning.Text
