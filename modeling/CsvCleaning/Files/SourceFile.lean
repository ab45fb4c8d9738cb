import CsvCleaning.FileName
import CsvCleaning.Files.Tree

/-!
# Candidate files

A file that the user picked, with its name and its size at that moment. Its bytes are held, or
they are read from the file tree when they are needed, by which time the file may be gone.
-/

namespace CsvCleaning

/-- Where the bytes of a candidate are. -/
inductive Contents where
  | stored (path : Path)
  | held (bytes : Bytes)
deriving DecidableEq, Repr

/-- A candidate file. -/
structure SourceFile where
  name : String
  size : Nat
  contents : Contents
deriving DecidableEq, Repr

namespace SourceFile

/-- A candidate whose bytes are given. -/
def ofBytes (name : String) (bytes : Bytes) : SourceFile :=
  ⟨name, bytes.length, .held bytes⟩

/-- The candidate that a path leads to. -/
def ofPath (tree : FileTree) (cwd : Location) (path : Path) : Except Failure SourceFile :=
  match tree.stat cwd path with
  | .error f => .error (.validation ("cannot read " ++ path.display ++ ": " ++ f.message))
  | .ok .directory => .error (.validation ("Path is not a file: " ++ path.display))
  | .ok (.file bytes) =>
    match path.fileName?.bind Bytes.readUtf8? with
    | some name => .ok ⟨name, bytes.length, .stored path⟩
    | none => .error (.validation ("invalid file name: " ++ path.display))

/-- The bytes of a candidate. -/
def read (file : SourceFile) (tree : FileTree) (cwd : Location) : Except Failure Bytes :=
  match file.contents with
  | .held bytes => .ok bytes
  | .stored path =>
    match tree.read cwd path with
    | .ok bytes => .ok bytes
    | .error f => .error f.failure

/-- A candidate made of bytes reads as these bytes. -/
theorem read_ofBytes (name : String) (bytes : Bytes) (tree : FileTree) (cwd : Location) :
    (ofBytes name bytes).read tree cwd = .ok bytes := rfl

end SourceFile

end CsvCleaning
