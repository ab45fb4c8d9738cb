/-!
# Bytes and their readings as text

Files, request bodies and paths are byte sequences. `utf8` writes a text as UTF-8, `readUtf8?`
reads it back and refuses a damaged sequence, and `readUtf8Lossy` puts one replacement character
for each maximal damaged part.
-/

namespace CsvCleaning

/-- A byte sequence. -/
abbrev Bytes := List UInt8

namespace Bytes

/-- Write characters in UTF-8. -/
def ofChars (cs : List Char) : Bytes :=
  cs.flatMap String.utf8EncodeChar

/-- Write a text in UTF-8. -/
def utf8 (s : String) : Bytes :=
  ofChars s.toList

/-- What stands at the front of a byte sequence: a character, or a damaged part, with the bytes
left after it. -/
inductive Front where
  | char (c : Char) (rest : Bytes)
  | damaged (rest : Bytes)

/-- Decide whether a byte continues a character that an earlier byte began. -/
def isContinuation (b : UInt8) : Bool :=
  0x80 ≤ b.toNat && b.toNat ≤ 0xBF

/-- The range of the second byte after a lead byte of three or four. -/
def secondRange (lead : Nat) : Nat × Nat :=
  if lead = 0xE0 then (0xA0, 0xBF)
  else if lead = 0xED then (0x80, 0x9F)
  else if lead = 0xF0 then (0x90, 0xBF)
  else if lead = 0xF4 then (0x80, 0x8F)
  else (0x80, 0xBF)

/-- Decide whether a byte may follow a lead byte of three or four. -/
def isSecond (lead : Nat) (b : UInt8) : Bool :=
  (secondRange lead).1 ≤ b.toNat && b.toNat ≤ (secondRange lead).2

/-- The low six bits of a continuation byte. -/
def payload (b : UInt8) : Nat :=
  b.toNat % 0x40

/-- Read the character that a lead byte begins, or the longest damaged part from it. -/
def frontAt (lead : UInt8) (rest : Bytes) : Front :=
  let n := lead.toNat
  if n < 0x80 then .char (Char.ofNat n) rest
  else if 0xC2 ≤ n ∧ n ≤ 0xDF then
    match rest with
    | b :: rest' =>
      if isContinuation b then .char (Char.ofNat (n % 0x20 * 0x40 + payload b)) rest'
      else .damaged rest
    | [] => .damaged rest
  else if 0xE0 ≤ n ∧ n ≤ 0xEF then
    match rest with
    | b :: rest' =>
      if isSecond n b then
        match rest' with
        | c :: rest'' =>
          if isContinuation c then
            .char (Char.ofNat ((n % 0x10 * 0x40 + payload b) * 0x40 + payload c)) rest''
          else .damaged rest'
        | [] => .damaged rest'
      else .damaged rest
    | [] => .damaged rest
  else if 0xF0 ≤ n ∧ n ≤ 0xF4 then
    match rest with
    | b :: rest' =>
      if isSecond n b then
        match rest' with
        | c :: rest'' =>
          if isContinuation c then
            match rest'' with
            | d :: rest''' =>
              if isContinuation d then
                .char (Char.ofNat
                  (((n % 0x8 * 0x40 + payload b) * 0x40 + payload c) * 0x40 + payload d)) rest'''
              else .damaged rest''
            | [] => .damaged rest''
          else .damaged rest'
        | [] => .damaged rest'
      else .damaged rest
    | [] => .damaged rest
  else .damaged rest

/-- Read at most `fuel` characters, with `none` in place of each damaged part. -/
def readParts : Nat → Bytes → List (Option Char)
  | 0, _ => []
  | _, [] => []
  | fuel + 1, b :: rest =>
    match frontAt b rest with
    | .char c rest' => some c :: readParts fuel rest'
    | .damaged rest' => none :: readParts fuel rest'

/-- The characters of a byte sequence in order, with `none` for each maximal damaged part. -/
def parts (bs : Bytes) : List (Option Char) :=
  readParts bs.length bs

/-- Collect the characters if no part is damaged. -/
def wholeParts? : List (Option Char) → Option (List Char)
  | [] => some []
  | none :: _ => none
  | some c :: rest => (wholeParts? rest).map (c :: ·)

/-- Read UTF-8 as characters, refusing a damaged sequence. -/
def readChars? (bs : Bytes) : Option (List Char) :=
  wholeParts? bs.parts

/-- Read UTF-8, refusing a damaged sequence. -/
def readUtf8? (bs : Bytes) : Option String :=
  bs.readChars?.map String.ofList

/-- The character that stands for a damaged part. -/
def replacement : Char :=
  Char.ofNat 0xFFFD

/-- Read UTF-8 with one replacement character for each maximal damaged part. -/
def readUtf8Lossy (bs : Bytes) : String :=
  String.ofList (bs.parts.map (·.getD replacement))

/-- The bytes of a concatenation are the bytes of its parts. -/
theorem ofChars_append (xs ys : List Char) : ofChars (xs ++ ys) = ofChars xs ++ ofChars ys := by
  simp [ofChars]

/-- The empty text has no bytes. -/
theorem utf8_empty : utf8 "" = [] := by
  simp [utf8, ofChars]

end Bytes

end CsvCleaning
