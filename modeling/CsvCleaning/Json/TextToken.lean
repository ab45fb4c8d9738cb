import CsvCleaning.Json.Fault
import CsvCleaning.Text.Bytes
import CsvCleaning.Text.Digits

/-!
# Text tokens

A quoted text is cut out of a body up to its closing quote. A reader that passes over it asks for
no more than that; one that needs it also pairs the surrogates and checks the UTF-8.
-/

namespace CsvCleaning.Json

/-- A piece of a quoted text: a byte as it stands, a character escape, or a UTF-16 unit. -/
inductive Piece where
  | byte (b : UInt8)
  | escape (b : UInt8)
  | unit (n : Nat)
deriving DecidableEq, Repr

/-- Where the grammar of a quoted text breaks. -/
inductive TextBreak where
  | ended
  | control
  | badEscape
  | badHex
deriving DecidableEq, Repr

/-- The problem that a break in a quoted text is. -/
def TextBreak.fault : TextBreak → Fault
  | ended => .endInText
  | control => .controlCharacter
  | badEscape => .invalidEscape
  | badHex => .invalidEscape

/-- The value of four hexadecimal digits. -/
def hexUnit? (a b c d : UInt8) : Option Nat := do
  let a ← Digits.value? a.toNat
  let b ← Digits.value? b.toNat
  let c ← Digits.value? c.toNat
  let d ← Digits.value? d.toNat
  return ((a * 16 + b) * 16 + c) * 16 + d

/-- The byte that a one-letter escape stands for. -/
def escapeByte? (b : UInt8) : Option UInt8 :=
  match Char.ofNat b.toNat with
  | '\"' => some 0x22
  | '\\' => some 0x5C
  | '/' => some 0x2F
  | 'b' => some 0x08
  | 'f' => some 0x0C
  | 'n' => some 0x0A
  | 'r' => some 0x0D
  | 't' => some 0x09
  | _ => none

/-- The pieces of a quoted text from after its opening quote, with what follows the closing
quote or the break before one. -/
def scanText : Bytes → List Piece × Except TextBreak Bytes
  | [] => ([], .error .ended)
  | b :: rest =>
    if b = 0x22 then ([], .ok rest)
    else if b = 0x5C then
      match rest with
      | [] => ([], .error .ended)
      | e :: rest' =>
        if e = 0x75 then
          match rest' with
          | h1 :: h2 :: h3 :: h4 :: after =>
            match hexUnit? h1 h2 h3 h4 with
            | some n =>
              let (pieces, result) := scanText after
              (.unit n :: pieces, result)
            | none => ([], .error .badHex)
          | _ => ([], .error .ended)
        else
          match escapeByte? e with
          | some c =>
            let (pieces, result) := scanText rest'
            (.escape c :: pieces, result)
          | none => ([], .error .badEscape)
    else if b.toNat < 0x20 then ([], .error .control)
    else
      let (pieces, result) := scanText rest
      (.byte b :: pieces, result)

/-- Decide whether a UTF-16 unit is the first of a surrogate pair. -/
def isLeading (n : Nat) : Bool :=
  0xD800 ≤ n && n ≤ 0xDBFF

/-- Decide whether a UTF-16 unit is the second of a surrogate pair. -/
def isTrailing (n : Nat) : Bool :=
  0xDC00 ≤ n && n ≤ 0xDFFF

/-- The character of a surrogate pair. -/
def pairedChar (lead trail : Nat) : Char :=
  Char.ofNat ((lead - 0xD800) * 0x400 + (trail - 0xDC00) + 0x10000)

/-- The problem of a leading surrogate at the end of the pieces. -/
def danglingLead : Option TextBreak → Fault
  | none => .endOfHexEscape
  | some .ended => .endInText
  | some .control => .endOfHexEscape
  | some .badEscape => .endOfHexEscape
  | some .badHex => .invalidEscape

/-- The bytes that the pieces spell, given the break that follows them. -/
def spell (stop : Option TextBreak) : List Piece → Except Fault Bytes
  | [] =>
    match stop with
    | none => .ok []
    | some b => .error b.fault
  | .byte b :: rest | .escape b :: rest => (spell stop rest).map (b :: ·)
  | .unit n :: rest =>
    if isTrailing n then .error .loneSurrogate
    else if isLeading n then
      match rest with
      | .unit n' :: rest' =>
        if isTrailing n' then
          (spell stop rest').map (String.utf8EncodeChar (pairedChar n n') ++ ·)
        else .error .loneSurrogate
      | [] => .error (danglingLead stop)
      | _ :: _ => .error .endOfHexEscape
    else (spell stop rest).map (String.utf8EncodeChar (Char.ofNat n) ++ ·)

/-- The text that a reader gets who needs it. -/
def spellText (stop : Option TextBreak) (pieces : List Piece) : Except Fault String :=
  match spell stop pieces with
  | .error f => .error f
  | .ok bytes =>
    match bytes.readUtf8? with
    | some s => .ok s
    | none => .error .invalidCodePoint

/-- Read a quoted text from after its opening quote: the text or its problem, and what follows;
or the break at which both kinds of reader stop. -/
def readText (bs : Bytes) : Except Break (Except Fault String × Bytes) :=
  match scanText bs with
  | (pieces, .ok rest) => .ok (spellText none pieces, rest)
  | (pieces, .error stop) =>
    .error ⟨(match spell (some stop) pieces with
      | .error f => f
      | .ok _ => stop.fault), stop.fault⟩

end CsvCleaning.Json
