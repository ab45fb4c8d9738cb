import CsvCleaning.Text.Bytes
import CsvCleaning.Text.Split

/-!
# Paths

A path is a byte sequence in which slashes part the components. Empty components and single dots
count for nothing except that a path may begin with a slash, which makes it absolute.
-/

namespace CsvCleaning

/-- A path as it is written. -/
abbrev Path := Bytes

namespace Path

/-- The byte between components. -/
def slash : UInt8 :=
  0x2F

/-- The component for the directory itself. -/
def dot : Bytes :=
  [0x2E]

/-- The component for the directory above. -/
def dotDot : Bytes :=
  [0x2E, 0x2E]

/-- The path that a text spells. -/
def ofText (s : String) : Path :=
  Bytes.utf8 s

/-- The text shown for a path. -/
def display (p : Path) : String :=
  Bytes.readUtf8Lossy p

/-- Decide whether a path begins at the root. -/
def isAbsolute (p : Path) : Bool :=
  p.head? == some slash

/-- The parts between slashes, empty ones included. -/
def parts (p : Path) : List Bytes :=
  Text.splitWhere (· == slash) p

/-- The components that lead somewhere: neither empty nor a single dot. -/
def steps (p : Path) : List Bytes :=
  p.parts.filter fun part => part ≠ [] ∧ part ≠ dot

/-- Put components together with slashes. -/
def ofParts (parts : List Bytes) : Path :=
  [slash].intercalate parts

/-- Follow a path from the directory that another names; an absolute path stands by itself. -/
def join (dir p : Path) : Path :=
  if p.isAbsolute then p
  else if dir = [] ∨ dir.getLast? = some slash then dir ++ p
  else dir ++ slash :: p

/-- The name of the file that a path leads to, unless it ends at a directory above or nowhere. -/
def fileName? (p : Path) : Option Bytes :=
  match p.steps.getLast? with
  | some name => if name = dotDot then none else some name
  | none => none

/-- The path without its last component, if it has one. -/
def parent? (p : Path) : Option Path :=
  match p.steps with
  | [] => if p.isAbsolute ∨ p = [] then none else some []
  | step :: steps =>
    let kept := (step :: steps).dropLast
    some (if p.isAbsolute then slash :: ofParts kept
      else if p.parts.head? = some dot then ofParts (dot :: kept)
      else ofParts kept)

/-- A path joined to a directory extends the directory's text unless it is absolute. -/
theorem join_of_isAbsolute {dir p : Path} (h : p.isAbsolute = true) : dir.join p = p := by
  simp [join, h]

end Path

end CsvCleaning
