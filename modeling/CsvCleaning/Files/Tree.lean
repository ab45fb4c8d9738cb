import CsvCleaning.Files.Path
import CsvCleaning.Failure

/-!
# A tree of files

Every file and directory has a location, the names that lead to it from the root. A path is
followed from a working directory one name at a time: each name but the last has to lead to a
directory, two dots go up, and a slash at the end asks for a directory.
-/

namespace CsvCleaning

/-- Why the file system refuses. -/
inductive FileFault where
  | notFound
  | alreadyExists
  | notDirectory
  | isDirectory
  | nameTooLong
  | nulByte
  | noParent
deriving DecidableEq, Repr

/-- The text of a refusal. -/
def FileFault.message : FileFault → String
  | notFound => "No such file or directory (os error 2)"
  | alreadyExists => "File exists (os error 17)"
  | notDirectory => "Not a directory (os error 20)"
  | isDirectory => "Is a directory (os error 21)"
  | nameTooLong => "File name too long (os error 36)"
  | nulByte => "file name contained an unexpected NUL byte"
  | noParent => "failed to create whole tree"

/-- A refusal as a failure of an operation. -/
def FileFault.failure (f : FileFault) : Failure :=
  .io f.message

/-- The names that lead from the root to a place. -/
abbrev Location := List Bytes

/-- What stands at a location. -/
inductive Node where
  | directory
  | file (bytes : Bytes)
deriving DecidableEq, Repr

/-- Files and directories by location. The root is a directory without being listed. -/
structure FileTree where
  nodes : List (Location × Node)
deriving DecidableEq, Repr

namespace FileTree

/-- The tree with nothing in it. -/
def empty : FileTree :=
  ⟨[]⟩

instance : Inhabited FileTree :=
  ⟨empty⟩

/-- What stands at a location, if anything does. -/
def node? (t : FileTree) (place : Location) : Option Node :=
  if place = [] then some .directory else (t.nodes.find? (·.1 == place)).map (·.2)

/-- Put a node at a location. -/
def put (t : FileTree) (place : Location) (node : Node) : FileTree :=
  ⟨(place, node) :: t.nodes.filter (·.1 != place)⟩

/-- Take away what stands at a location. -/
def remove (t : FileTree) (place : Location) : FileTree :=
  ⟨t.nodes.filter (·.1 != place)⟩

/-- What was put at a location stands there. -/
theorem node?_put_self (t : FileTree) {place : Location} (h : place ≠ []) (node : Node) :
    (t.put place node).node? place = some node := by
  simp [put, node?, h]

/-- Putting a node at a location changes no other. -/
theorem node?_put_of_ne (t : FileTree) {place other : Location} (h : other ≠ place) (node : Node) :
    (t.put place node).node? other = t.node? other := by
  have hne : (place == other) = false := by simpa using fun e => h e.symm
  simp only [put, node?, List.find?_cons, hne]
  congr 2
  induction t.nodes with
  | nil => rfl
  | cons e rest ih =>
    by_cases he : e.1 = place
    · have : (e.1 == other) = false := by simpa [he] using fun e => h e.symm
      simp [he, ih, hne]
    · by_cases ho : e.1 = other
      · simp [ho, h]
      · have : (e.1 == other) = false := by simpa using ho
        simp [he, this, ih]

/-- The longest name of a file. -/
def maxName : Nat :=
  255

/-- The longest path. -/
def maxPath : Nat :=
  4095

/-- Follow names from a location. The last name need not lead to anything yet. -/
def follow (t : FileTree) : Location → List Bytes → Except FileFault Location
  | here, [] => .ok here
  | here, name :: rest =>
    match t.node? here with
    | none => .error .notFound
    | some (.file _) => .error .notDirectory
    | some .directory =>
      if name = Path.dot ∨ name = [] then t.follow here rest
      else if name = Path.dotDot then t.follow here.dropLast rest
      else if maxName < name.length then .error .nameTooLong
      else t.follow (here ++ [name]) rest

/-- Where a path leads from a working directory. -/
def locate (t : FileTree) (cwd : Location) (p : Path) : Except FileFault Location :=
  if 0 ∈ p then .error .nulByte
  else if p = [] then .error .notFound
  else if maxPath < p.length then .error .nameTooLong
  else t.follow (if p.isAbsolute then [] else cwd) p.parts

/-- What a path leads to. -/
def stat (t : FileTree) (cwd : Location) (p : Path) : Except FileFault Node :=
  match t.locate cwd p with
  | .error f => .error f
  | .ok place =>
    match t.node? place with
    | some node => .ok node
    | none => .error .notFound

/-- Decide whether a path leads to a directory. -/
def isDirectory (t : FileTree) (cwd : Location) (p : Path) : Bool :=
  match t.stat cwd p with
  | .ok .directory => true
  | _ => false

/-- The bytes of the file that a path leads to. -/
def read (t : FileTree) (cwd : Location) (p : Path) : Except FileFault Bytes :=
  match t.stat cwd p with
  | .ok (.file bytes) => .ok bytes
  | .ok .directory => .error .isDirectory
  | .error f => .error f

/-- Write a file where a path leads, in place of what it held. -/
def write (t : FileTree) (cwd : Location) (p : Path) (bytes : Bytes) :
    Except FileFault FileTree :=
  match t.locate cwd p with
  | .error f => .error f
  | .ok place =>
    match t.node? place, t.node? place.dropLast with
    | some .directory, _ => .error .isDirectory
    | _, some .directory => .ok (t.put place (.file bytes))
    | _, some (.file _) => .error .notDirectory
    | _, none => .error .notFound

/-- A path without the slashes at its end. -/
def withoutEndSlash (p : Path) : Path :=
  (p.reverse.dropWhile (· == Path.slash)).reverse

/-- Create the directory that a path names, in a directory that is there. -/
def createDirectory (t : FileTree) (cwd : Location) (p : Path) : Except FileFault FileTree :=
  let short := if withoutEndSlash p = [] then p else withoutEndSlash p
  match t.locate cwd short with
  | .error f => .error f
  | .ok place =>
    match t.node? place, t.node? place.dropLast with
    | some _, _ => .error .alreadyExists
    | none, some .directory => .ok (t.put place .directory)
    | none, some (.file _) => .error .notDirectory
    | none, none => .error .notFound

/-- Create a directory once its parents are there; one that is there already will do. -/
def ensureDirectory (t : FileTree) (cwd : Location) (p : Path) :
    FileTree × Except FileFault Unit :=
  match t.createDirectory cwd p with
  | .ok t' => (t', .ok ())
  | .error f => (t, if t.isDirectory cwd p then .ok () else .error f)

/-- Create a directory and its missing parents, `depth` of them at most. -/
def createUpTo (t : FileTree) (cwd : Location) : Nat → Path → FileTree × Except FileFault Unit
  | 0, _ => (t, .error .noParent)
  | depth + 1, p =>
    if p = [] then (t, .ok ())
    else
      match t.createDirectory cwd p with
      | .error .notFound =>
        match p.parent? with
        | none => (t, .error .noParent)
        | some parent =>
          match t.createUpTo cwd depth parent with
          | (t', .ok ()) => t'.ensureDirectory cwd p
          | (t', .error f) => (t', .error f)
      | _ => t.ensureDirectory cwd p

/-- Create a directory and its missing parents. The directories made before a refusal stay. -/
def createDirectories (t : FileTree) (cwd : Location) (p : Path) :
    FileTree × Except FileFault Unit :=
  t.createUpTo cwd (p.length + 2) p

/-- The files below a location, by the path from there. -/
def filesBelow (t : FileTree) (place : Location) : List (Path × Bytes) :=
  t.nodes.filterMap fun e =>
    match e.2 with
    | .file bytes =>
      if place.isPrefixOf e.1 ∧ place.length < e.1.length then
        some (Path.ofParts (e.1.drop place.length), bytes)
      else none
    | .directory => none

end FileTree

end CsvCleaning
