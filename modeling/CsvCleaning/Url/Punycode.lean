/-!
# Labels with letters beyond ASCII

A label that holds other characters is written in ASCII: first the ASCII characters, then, in the
order of the other characters' codes, the distance from each insertion to the next as numbers of
variable length in base thirty-six, whose digit thresholds adapt to the distances seen.
-/

namespace CsvCleaning.Punycode

/-- The digit of a value below thirty-six. -/
def digit (n : Nat) : Char :=
  if n < 26 then Char.ofNat (0x61 + n) else Char.ofNat (0x16 + n)

/-- The threshold of a digit at a place that counts in steps of thirty-six. -/
def threshold (bias place : Nat) : Nat :=
  min 26 (max 1 (place - bias))

/-- Write a number in at most `fuel` digits more than one. -/
def writeFrom (bias : Nat) : Nat → Nat → Nat → List Char
  | 0, _, n => [digit n]
  | fuel + 1, place, n =>
    let t := threshold bias place
    if n < t then [digit n]
    else digit (t + (n - t) % (36 - t)) :: writeFrom bias fuel (place + 36) ((n - t) / (36 - t))

/-- Write a number. -/
def write (bias n : Nat) : List Char :=
  writeFrom bias n 36 n

/-- Scale a distance down, counting the steps in thirty-sixes. -/
def scaleDown : Nat → Nat → Nat → Nat
  | 0, steps, d => steps + 36 * d / (d + 38)
  | fuel + 1, steps, d =>
    if 455 < d then scaleDown fuel (steps + 36) (d / 35) else steps + 36 * d / (d + 38)

/-- The bias after a distance, when so many characters have been written. -/
def adapt (isFirst : Bool) (written distance : Nat) : Nat :=
  let d := if isFirst then distance / 700 else distance / 2
  scaleDown d 0 (d + d / written)

/-- What has been written, and the distance since. -/
structure Progress where
  text : List Char
  distance : Nat
  bias : Nat
  written : Nat
  isFirst : Bool

/-- Pass one character of the label while those with one code are written. -/
def pass (code : Nat) (p : Progress) (c : Char) : Progress :=
  if c.toNat < code then { p with distance := p.distance + 1 }
  else if c.toNat = code then
    { text := p.text ++ write p.bias p.distance
      distance := 0
      bias := adapt p.isFirst (p.written + 1) p.distance
      written := p.written + 1
      isFirst := false }
  else p

/-- Write the characters of each code in turn, all codes below `next` being done. -/
def writeCodes (label : List Char) : Nat → Progress → List Nat → Progress
  | _, p, [] => p
  | next, p, code :: rest =>
    let start := { p with distance := p.distance + (code - next) * (p.written + 1) }
    let done := label.foldl (pass code) start
    writeCodes label (code + 1) { done with distance := done.distance + 1 } rest

/-- The codes beyond ASCII in a label, each once, from the least. -/
def codes (label : List Char) : List Nat :=
  ((label.map Char.toNat).filter (0x80 ≤ ·)).mergeSort.eraseReps

/-- Write a label in ASCII. -/
def encode (label : List Char) : List Char :=
  let ascii := label.filter (·.toNat < 0x80)
  let start := if ascii = [] then [] else ascii ++ ['-']
  (writeCodes label 0x80 ⟨start, 0, 72, ascii.length, true⟩ (codes label)).text

end CsvCleaning.Punycode
