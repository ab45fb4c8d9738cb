import CsvCleaning.Number.Binary64

/-!
# What can be wrong with a JSON body

The first problem in document order is reported. A text can break the grammar, and a well-formed
value can have another shape than the one asked for. A problem is kept without its position in the body.
-/

namespace CsvCleaning.Json

/-- A problem found while reading a body. -/
inductive Fault where
  | expectedValue
  | expectedIdent
  | invalidNumber
  | numberOutOfRange
  | trailingCharacters
  | trailingComma
  | keyMustBeText
  | expectedColon
  | expectedCommaOrBrace
  | expectedCommaOrBracket
  | endInValue
  | endInText
  | endInArray
  | endInObject
  | invalidEscape
  | loneSurrogate
  | endOfHexEscape
  | invalidCodePoint
  | controlCharacter
  | nestedTooDeep
  | missingField (name : String)
  | duplicateField (name : String)
  | invalidType (got want : String)
  | invalidValue (got want : String)
  | invalidLength (found : Nat) (shape : String) (fields : Nat)
deriving DecidableEq, Repr

/-- The text of a problem, without the position that a parser puts behind it: ` at line L column C`. -/
def Fault.message : Fault → String
  | expectedValue => "expected value"
  | expectedIdent => "expected ident"
  | invalidNumber => "invalid number"
  | numberOutOfRange => "number out of range"
  | trailingCharacters => "trailing characters"
  | trailingComma => "trailing comma"
  | keyMustBeText => "key must be a string"
  | expectedColon => "expected `:`"
  | expectedCommaOrBrace => "expected `,` or `\x7d`"
  | expectedCommaOrBracket => "expected `,` or `]`"
  | endInValue => "EOF while parsing a value"
  | endInText => "EOF while parsing a string"
  | endInArray => "EOF while parsing a list"
  | endInObject => "EOF while parsing an object"
  | invalidEscape => "invalid escape"
  | loneSurrogate => "lone leading surrogate in hex escape"
  | endOfHexEscape => "unexpected end of hex escape"
  | invalidCodePoint => "invalid unicode code point"
  | controlCharacter => "control character (\\u0000-\\u001F) found while parsing a string"
  | nestedTooDeep => "recursion limit exceeded"
  | missingField name => "missing field `" ++ name ++ "`"
  | duplicateField name => "duplicate field `" ++ name ++ "`"
  | invalidType got want => "invalid type: " ++ got ++ ", expected " ++ want
  | invalidValue got want => "invalid value: " ++ got ++ ", expected " ++ want
  | invalidLength found shape fields =>
    "invalid length " ++ toString found ++ ", expected struct " ++ shape ++ " with " ++
      toString fields ++ (if fields = 1 then " element" else " elements")

/-- A place where reading stops, with the problem for a reader that needs the value and the one
for a reader that passes over it. -/
structure Break where
  needed : Fault
  skipped : Fault
deriving DecidableEq, Repr

/-- A break that both readers report alike. -/
def Break.same (f : Fault) : Break :=
  ⟨f, f⟩

end CsvCleaning.Json
