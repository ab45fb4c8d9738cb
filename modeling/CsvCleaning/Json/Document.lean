import CsvCleaning.Json.NumberToken
import CsvCleaning.Json.TextToken

/-!
# Documents

A body is read as far as its grammar holds. The document keeps the members of an object as they
stand, repeated names included, and holds each problem at its place, so that a reader who walks it
in order meets the first problem first. Parts that nobody needs are passed over by laxer rules:
their texts may hold lone surrogates, their numbers may be too large, and they may nest as deep as
they like.
-/

namespace CsvCleaning.Json

/-- A body as it stands, with its problems at their places. -/
inductive Doc where
  | null
  | bool (b : Bool)
  | number (n : Except Fault JsonNumber)
  | text (s : Except Fault String)
  | array (tooDeep : Bool) (items : List Doc) (stop : Option Break)
  | object (tooDeep : Bool) (members : List (Except Fault String × Doc)) (stop : Option Break)
  | broken (place : Break)

/-- A document at the front of a text and what follows it, unless reading stopped inside. -/
structure Reading where
  doc : Doc
  rest : Option Bytes

/-- Items at the front of a text, the break after them, and what follows the closing bracket. -/
structure Items where
  items : List Doc
  stop : Option Break
  rest : Option Bytes

/-- Members at the front of a text, the break after them, and what follows the closing brace. -/
structure Members where
  members : List (Except Fault String × Doc)
  stop : Option Break
  rest : Option Bytes

/-- The number of nested arrays and objects at which a needed value is refused. -/
def nestingLimit : Nat :=
  128

/-- Decide whether a byte may stand between tokens. -/
def isSpace (b : UInt8) : Bool :=
  b = 0x20 || b = 0x0A || b = 0x09 || b = 0x0D

/-- Pass over the space between tokens. -/
def skipSpace (bs : Bytes) : Bytes :=
  bs.dropWhile isSpace

/-- A reading that stops at a break. -/
def Reading.broken (b : Break) : Reading :=
  ⟨.broken b, none⟩

/-- Read the rest of a fixed word. -/
def readWord (doc : Doc) : List UInt8 → Bytes → Reading
  | [], bs => ⟨doc, some bs⟩
  | _ :: _, [] => .broken (.same .endInValue)
  | w :: word, b :: rest =>
    if b = w then readWord doc word rest else .broken (.same .expectedIdent)

/-- Read a number from its first character. -/
def readNumber (bs : Bytes) : Reading :=
  match scanNumber bs with
  | .ok (token, rest) => ⟨.number token.value, some rest⟩
  | .error b => .broken b

mutual

/-- Read a value nested in `depth` others. -/
def readValue : Nat → Nat → Bytes → Reading
  | 0, _, _ => .broken (.same .endInValue)
  | fuel + 1, depth, bs =>
    match skipSpace bs with
    | [] => .broken (.same .endInValue)
    | b :: rest =>
      if b = 0x5B then
        match skipSpace rest with
        | [] => ⟨.array (nestingLimit ≤ depth + 1) [] (some (.same .endInArray)), none⟩
        | c :: after =>
          if c = 0x5D then ⟨.array (nestingLimit ≤ depth + 1) [] none, some after⟩
          else
            let r := readItems fuel (depth + 1) rest
            ⟨.array (nestingLimit ≤ depth + 1) r.items r.stop, r.rest⟩
      else if b = 0x7B then
        match skipSpace rest with
        | [] => ⟨.object (nestingLimit ≤ depth + 1) [] (some (.same .endInObject)), none⟩
        | c :: after =>
          if c = 0x7D then ⟨.object (nestingLimit ≤ depth + 1) [] none, some after⟩
          else if c = 0x22 then
            let r := readMembers fuel (depth + 1) after
            ⟨.object (nestingLimit ≤ depth + 1) r.members r.stop, r.rest⟩
          else ⟨.object (nestingLimit ≤ depth + 1) [] (some (.same .keyMustBeText)), none⟩
      else if b = 0x22 then
        match readText rest with
        | .ok (s, after) => ⟨.text s, some after⟩
        | .error b => .broken b
      else if b = 0x2D ∨ (digit? b).isSome then readNumber (b :: rest)
      else if b = 0x6E then readWord .null [0x75, 0x6C, 0x6C] rest
      else if b = 0x74 then readWord (.bool true) [0x72, 0x75, 0x65] rest
      else if b = 0x66 then readWord (.bool false) [0x61, 0x6C, 0x73, 0x65] rest
      else .broken (.same .expectedValue)

/-- Read the items of an array from the first of them on. -/
def readItems : Nat → Nat → Bytes → Items
  | 0, _, _ => ⟨[], some (.same .endInArray), none⟩
  | fuel + 1, depth, bs =>
    let first := readValue fuel depth bs
    match first.rest with
    | none => ⟨[first.doc], none, none⟩
    | some bs =>
      match skipSpace bs with
      | [] => ⟨[first.doc], some (.same .endInArray), none⟩
      | c :: after =>
        if c = 0x5D then ⟨[first.doc], none, some after⟩
        else if c = 0x2C then
          match skipSpace after with
          | 0x5D :: _ => ⟨[first.doc], some ⟨.trailingComma, .expectedValue⟩, none⟩
          | _ =>
            let more := readItems fuel depth after
            ⟨first.doc :: more.items, more.stop, more.rest⟩
        else ⟨[first.doc], some (.same .expectedCommaOrBracket), none⟩

/-- Read the members of an object from after the opening quote of the first name on. -/
def readMembers : Nat → Nat → Bytes → Members
  | 0, _, _ => ⟨[], some (.same .endInObject), none⟩
  | fuel + 1, depth, bs =>
    match readText bs with
    | .error b => ⟨[], some b, none⟩
    | .ok (key, bs) =>
      match skipSpace bs with
      | [] => ⟨[(key, .broken (.same .endInObject))], none, none⟩
      | c :: bs =>
        if c = 0x3A then
          let first := readValue fuel depth bs
          match first.rest with
          | none => ⟨[(key, first.doc)], none, none⟩
          | some bs =>
            match skipSpace bs with
            | [] => ⟨[(key, first.doc)], some (.same .endInObject), none⟩
            | c :: after =>
              if c = 0x7D then ⟨[(key, first.doc)], none, some after⟩
              else if c = 0x2C then
                match skipSpace after with
                | [] => ⟨[(key, first.doc)], some ⟨.endInValue, .endInObject⟩, none⟩
                | d :: after' =>
                  if d = 0x22 then
                    let more := readMembers fuel depth after'
                    ⟨(key, first.doc) :: more.members, more.stop, more.rest⟩
                  else if d = 0x7D then
                    ⟨[(key, first.doc)], some ⟨.trailingComma, .keyMustBeText⟩, none⟩
                  else ⟨[(key, first.doc)], some (.same .keyMustBeText), none⟩
              else ⟨[(key, first.doc)], some (.same .expectedCommaOrBrace), none⟩
        else ⟨[(key, .broken (.same .expectedColon))], none, none⟩

end

/-- Read a whole body. Each level of nesting and each item takes at least one byte. -/
def readDocument (bs : Bytes) : Reading :=
  readValue (2 * bs.length + 2) 0 bs

mutual

/-- Pass over a document, reporting the first problem that even then counts. -/
def Doc.skip : Doc → Except Fault Unit
  | .null | .bool _ | .number _ | .text _ => .ok ()
  | .array _ items stop =>
    match skipItems items with
    | .error f => .error f
    | .ok () =>
      match stop with
      | some b => .error b.skipped
      | none => .ok ()
  | .object _ members stop =>
    match skipMembers members with
    | .error f => .error f
    | .ok () =>
      match stop with
      | some b => .error b.skipped
      | none => .ok ()
  | .broken b => .error b.skipped

/-- Pass over documents in order. -/
def skipItems : List Doc → Except Fault Unit
  | [] => .ok ()
  | d :: rest =>
    match d.skip with
    | .error f => .error f
    | .ok () => skipItems rest

/-- Pass over members in order. -/
def skipMembers : List (Except Fault String × Doc) → Except Fault Unit
  | [] => .ok ()
  | (_, d) :: rest =>
    match d.skip with
    | .error f => .error f
    | .ok () => skipMembers rest

end

/-- The problem that a break is for a reader who needs the value. -/
def needStop : Option Break → Except Fault Unit
  | some b => .error b.needed
  | none => .ok ()

mutual

/-- The value of a document, or the first problem in it. -/
def Doc.value : Doc → Except Fault Json
  | .null => .ok .null
  | .bool b => .ok (.bool b)
  | .number n => n.map .number
  | .text s => s.map .text
  | .array tooDeep items stop =>
    if tooDeep then .error .nestedTooDeep
    else
      match valueItems items with
      | .error f => .error f
      | .ok vs => (needStop stop).map fun _ => .array vs
  | .object tooDeep members stop =>
    if tooDeep then .error .nestedTooDeep
    else
      match valueMembers members .empty with
      | .error f => .error f
      | .ok m => (needStop stop).map fun _ => .object m.entries
  | .broken b => .error b.needed

/-- The values of documents in order. -/
def valueItems : List Doc → Except Fault (List Json)
  | [] => .ok []
  | d :: rest =>
    match d.value with
    | .error f => .error f
    | .ok v => (valueItems rest).map (v :: ·)

/-- The values of members, gathered into a map in which the last of a name counts. -/
def valueMembers : List (Except Fault String × Doc) → SortedMap Json →
    Except Fault (SortedMap Json)
  | [], m => .ok m
  | (key, d) :: rest, m =>
    match key with
    | .error f => .error f
    | .ok k =>
      match d.value with
      | .error f => .error f
      | .ok v => valueMembers rest (m.insert k v)

end

mutual

/-- The document that spells out a value. -/
def Doc.ofJson : Json → Doc
  | .null => .null
  | .bool b => .bool b
  | .number n => .number (.ok n)
  | .text s => .text (.ok s)
  | .array items => .array false (docItems items) none
  | .object members => .object false (docMembers members) none

/-- The documents that spell out values. -/
def docItems : List Json → List Doc
  | [] => []
  | v :: rest => Doc.ofJson v :: docItems rest

/-- The documents that spell out members. -/
def docMembers : List (String × Json) → List (Except Fault String × Doc)
  | [] => []
  | (k, v) :: rest => (.ok k, Doc.ofJson v) :: docMembers rest

end

/-- Read a body whose document is wanted by `decode`, and see that nothing follows it. -/
def decodeBody {α : Type} (decode : Doc → Except Fault α) (bs : Bytes) : Except Fault α :=
  let r := readDocument bs
  match decode r.doc with
  | .error f => .error f
  | .ok a =>
    match (r.rest.getD []).dropWhile isSpace with
    | [] => .ok a
    | _ :: _ => .error .trailingCharacters

/-- Read a body as a value. -/
def parse (bs : Bytes) : Except Fault Json :=
  decodeBody Doc.value bs

end CsvCleaning.Json
