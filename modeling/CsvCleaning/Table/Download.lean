import CsvCleaning.FileId
import CsvCleaning.Service.Call
import CsvCleaning.Table.View

/-!
# Saving the cleaned file

The cleaned data of a file is fetched first and only then saved, in a directory that is created if
it is missing, so a failed fetch leaves the file tree as it was.
-/

namespace CsvCleaning

/-- What comes of saving a file: its path or a failure, the state of the gateway and the tree. -/
structure Saving (σ α : Type) where
  answer : Except Failure α
  gateway : σ
  tree : FileTree

namespace Saving

variable {σ : Type}

/-- The path of the file saved in a directory for a file id. -/
def reportPath (dir : Path) (fileId ending : String) : Path :=
  dir.join (Path.ofText (FileName.report fileId ending))

/-- Save bytes as the report of a file id in a directory. -/
def store (s : σ) (tree : FileTree) (cwd : Location) (dir : Path) (fileId ending : String)
    (bytes : Bytes) : Saving σ Path :=
  match tree.createDirectories cwd dir with
  | (tree, .error f) => ⟨.error f.failure, s, tree⟩
  | (tree, .ok ()) =>
    let path := reportPath dir fileId ending
    match tree.write cwd path bytes with
    | .ok tree => ⟨.ok path, s, tree⟩
    | .error f => ⟨.error f.failure, s, tree⟩

/-- Fetch the cleaned data of a file id and save it in a directory. -/
def report (gateway : Gateway σ) (s : σ) (tree : FileTree) (cwd : Location) (dir : Path)
    (fileId ending : String) : Saving σ Path :=
  match FileId.check fileId with
  | .error f => ⟨.error f, s, tree⟩
  | .ok () =>
    match gateway (.download fileId) s with
    | (.error f, s) => ⟨.error f, s, tree⟩
    | (.ok bytes, s) => store s tree cwd dir fileId ending bytes

/-- A blank file id calls nothing and changes nothing. -/
theorem report_of_blank {gateway : Gateway σ} {s : σ} {tree : FileTree} {cwd : Location}
    {dir : Path} {fileId ending : String} (h : Text.allBlank fileId = true) :
    report gateway s tree cwd dir fileId ending =
      ⟨.error (.validation "missing file id"), s, tree⟩ := by
  simp [report, FileId.check, h]

end Saving

/-- Fetch the cleaned data of the view's table and save it; nothing without a table. -/
def View.download {σ : Type} (v : View) (gateway : Gateway σ) (s : σ) (tree : FileTree)
    (cwd : Location) (dir : Path) (ending : String) : Saving σ (Option Path) :=
  match v.table with
  | none => ⟨.ok none, s, tree⟩
  | some t =>
    let saved := Saving.report gateway s tree cwd dir t.fileId ending
    ⟨saved.answer.map some, saved.gateway, saved.tree⟩

end CsvCleaning
