import CsvCleaning.Proofs.Files.Following
import CsvCleaning.Proofs.Text.Utf8
import CsvCleaning.Table.Download
import Mathlib.Control.Monad.Basic

/-!
# Where the cleaned file is saved

The name of a report is the file id, its ending and `.csv`. It is one component of a path exactly if
there is no slash in the file id, for any ending without one; the report is then saved right in the
chosen directory. A file id with a slash is followed as a path of its own, and two dots in it lead
out of the directory.
-/

namespace CsvCleaning

/-- The slash of paths is the byte of the character. -/
theorem Path.slash_mem_ofText {s : String} : slash ∈ ofText s ↔ '/' ∈ s.toList :=
  Bytes.mem_ofChars_iff (a := '/') (by decide)

/-- The name of a report is a component of a path if there is no slash in it. -/
theorem Path.length_parts_ofText_eq_one_iff {s : String} :
    (ofText s).parts.length = 1 ↔ '/' ∉ s.toList := by
  rw [parts, Text.length_splitWhere_eq_one_iff, ← slash_mem_ofText]
  simp only [beq_eq_false_iff_ne]
  constructor
  · exact fun hall hmem => hall slash hmem rfl
  · rintro hslash _ hmem rfl
    exact hslash hmem

namespace FileName

/-- Slashes in the name of a report are those of the file id and the ending. -/
theorem slash_mem_report {fileId ending : String} (hending : '/' ∉ ending.toList) :
    '/' ∈ (report fileId ending).toList ↔ '/' ∈ fileId.toList := by
  simp [report, hending]

/-- The name of a report is longer than the names that lead up or nowhere. -/
theorem length_report (fileId ending : String) :
    2 < (Path.ofText (report fileId ending)).length := by
  have hcsv : (Bytes.ofChars ".csv".toList).length = 4 := by decide +kernel
  rw [Path.ofText, Bytes.utf8, report, String.toList_append, Bytes.ofChars_append, List.length_append,
    hcsv]
  omega

end FileName

/-- A file is saved right in a directory: the directory is there once it and its parents are
created, and a single name in it is all that is put into the tree. -/
structure SavedIn (tree : FileTree) (cwd : Location) (dir path : Path) (name bytes : Bytes)
    (tree' : FileTree) : Prop where
  placed : ∃ made here, tree.createDirectories cwd dir = (made, .ok ()) ∧
    made.home cwd dir = .ok here ∧ made.node? here = some .directory ∧
    made.locate cwd path = .ok (here ++ [name]) ∧ tree' = made.put (here ++ [name]) (.file bytes)
  read : tree'.read cwd path = .ok bytes

/-- What becomes of a download that succeeds. -/
structure Downloaded {σ : Type} (gateway : Gateway σ) (s : σ) (tree : FileTree) (cwd : Location)
    (dir : Path) (fileId ending : String) (path : Path) (tree' : FileTree) : Prop where
  path_eq : path = Saving.reportPath dir fileId ending
  /-- The name of the report is one component exactly if there is no slash in the file id. -/
  component : (Path.ofText (FileName.report fileId ending)).parts.length = 1 ↔ '/' ∉ fileId.toList
  /-- Unless there is a slash in the file id, what the service gave is saved right in the
  directory. -/
  saved : '/' ∉ fileId.toList → ∃ bytes, (gateway (.download fileId) s).1 = .ok bytes ∧
    SavedIn tree cwd dir path (Path.ofText (FileName.report fileId ending)) bytes tree'

namespace Saving

variable {σ : Type} {gateway : Gateway σ} {s : σ} {tree : FileTree} {cwd : Location} {dir path : Path}
  {fileId ending : String}

/-- Bytes are written under the path of the report once the directory is created, or the file tree
refuses and is left with the directories that were created. -/
theorem store_cases (s : σ) (tree : FileTree) (cwd : Location) (dir : Path) (fileId ending : String)
    (bytes : Bytes) :
    (∃ made tree', tree.createDirectories cwd dir = (made, .ok ()) ∧
        made.write cwd (reportPath dir fileId ending) bytes = .ok tree' ∧
        store s tree cwd dir fileId ending bytes = ⟨.ok (reportPath dir fileId ending), s, tree'⟩) ∨
      ∃ fault, store s tree cwd dir fileId ending bytes =
        ⟨.error (FileFault.failure fault), s, (tree.createDirectories cwd dir).1⟩ := by
  unfold store
  rcases hmade : tree.createDirectories cwd dir with ⟨made, fault | ⟨⟩⟩
  · exact .inr ⟨fault, rfl⟩
  · dsimp only
    cases hwrite : made.write cwd (reportPath dir fileId ending) bytes with
    | error fault => exact .inr ⟨fault, rfl⟩
    | ok tree' => exact .inl ⟨made, tree', rfl, hwrite, rfl⟩

/-- What is stored is stored under the path of the report, and under a name without slashes right in the
directory. -/
theorem savedIn_of_store {bytes : Bytes}
    (h : (store s tree cwd dir fileId ending bytes).answer = .ok path) :
    path = reportPath dir fileId ending ∧
      ('/' ∉ (FileName.report fileId ending).toList →
        SavedIn tree cwd dir path (Path.ofText (FileName.report fileId ending)) bytes
          (store s tree cwd dir fileId ending bytes).tree) := by
  rcases store_cases s tree cwd dir fileId ending bytes with
    ⟨made, tree', hmade, hwrite, hstored⟩ | ⟨fault, hrefused⟩
  · rw [hstored] at h ⊢
    obtain rfl := Except.ok.inj h
    refine ⟨rfl, fun hslash => ?_⟩
    obtain ⟨place, hplace, -, htree⟩ := FileTree.exists_of_write hwrite
    obtain ⟨here, hhere, hnode, rfl⟩ := FileTree.locate_join (FileName.length_report fileId ending)
      (fun hmem => hslash (Path.slash_mem_ofText.mp hmem)) hplace
    exact ⟨⟨made, here, hmade, hhere, hnode, hplace, htree⟩, FileTree.read_of_write hwrite⟩
  · rw [hrefused] at h
    cases h

/-- A failed call is all that a download comes to. -/
theorem report_of_error {f : Failure} {s' : σ} (hid : Text.allBlank fileId = false)
    (h : gateway (.download fileId) s = (.error f, s')) :
    report gateway s tree cwd dir fileId ending = ⟨.error f, s', tree⟩ := by
  simp only [report, FileId.check_eq_ok_iff.mpr hid, h]

/-- The bytes that the service gives are stored. -/
theorem report_of_ok {bytes : Bytes} {s' : σ} (hid : Text.allBlank fileId = false)
    (h : gateway (.download fileId) s = (.ok bytes, s')) :
    report gateway s tree cwd dir fileId ending = store s' tree cwd dir fileId ending bytes := by
  simp only [report, FileId.check_eq_ok_iff.mpr hid, h]

/-- A report is saved of what the service gave. -/
theorem exists_of_report (h : (report gateway s tree cwd dir fileId ending).answer = .ok path) :
    ∃ bytes s', gateway (.download fileId) s = (.ok bytes, s') ∧
      report gateway s tree cwd dir fileId ending = store s' tree cwd dir fileId ending bytes := by
  cases hid : Text.allBlank fileId with
  | true =>
    rw [report_of_blank hid] at h
    cases h
  | false =>
    rcases hgiven : gateway (.download fileId) s with ⟨f | bytes, s'⟩
    · rw [report_of_error hid hgiven] at h
      cases h
    · exact ⟨bytes, s', rfl, report_of_ok hid hgiven⟩

/-- A download that succeeds is saved under the path of the report, and right in the directory if
there is no slash in the file id. -/
theorem downloaded_of_report (hending : '/' ∉ ending.toList)
    (h : (report gateway s tree cwd dir fileId ending).answer = .ok path) :
    Downloaded gateway s tree cwd dir fileId ending path
      (report gateway s tree cwd dir fileId ending).tree := by
  obtain ⟨bytes, s', hgiven, hreport⟩ := exists_of_report h
  rw [hreport] at h ⊢
  have hslash : '/' ∈ (FileName.report fileId ending).toList ↔ '/' ∈ fileId.toList :=
    FileName.slash_mem_report hending
  obtain ⟨hpath, hsaved⟩ := savedIn_of_store h
  refine ⟨hpath, ?_, fun hfileId => ⟨bytes, by rw [hgiven], ?_⟩⟩
  · rw [Path.length_parts_ofText_eq_one_iff, hslash]
  · exact hsaved fun hmem => hfileId (hslash.mp hmem)

end Saving

/-- Downloads are kept in the chosen directory as long as file ids have no slash. For every gateway,
every directory and every ending without a slash, what a download returns is the path of the report;
the name of the report is one component of it exactly if there is no slash in the file id, and then
it is a file right in the directory that is written, with what the service gave, and nothing else
but the directory itself is new in the tree. -/
theorem downloads_confined {σ : Type} (gateway : Gateway σ) (s : σ) (tree : FileTree)
    (cwd : Location) (dir : Path) {ending : String} (hending : '/' ∉ ending.toList) :
    (∀ fileId path, (Saving.report gateway s tree cwd dir fileId ending).answer = .ok path →
      Downloaded gateway s tree cwd dir fileId ending path
        (Saving.report gateway s tree cwd dir fileId ending).tree) ∧
    ∀ (v : View) (path : Path),
      (v.download gateway s tree cwd dir ending).answer = .ok (some path) →
      ∃ table, v.table = some table ∧
        Downloaded gateway s tree cwd dir table.fileId ending path
          (v.download gateway s tree cwd dir ending).tree := by
  refine ⟨fun fileId path h => Saving.downloaded_of_report hending h, fun v path h => ?_⟩
  unfold View.download at h ⊢
  cases htable : v.table with
  | none =>
    rw [htable] at h
    cases h
  | some table =>
    rw [htable] at h
    refine ⟨table, rfl, Saving.downloaded_of_report hending ?_⟩
    dsimp only at h
    cases hanswer : (Saving.report gateway s tree cwd dir table.fileId ending).answer with
    | error f =>
      rw [hanswer] at h
      cases h
    | ok saved =>
      rw [hanswer] at h
      exact congrArg Except.ok (Option.some.inj (Except.ok.inj h))

/-- A service that gives the same bytes for every file id. -/
def Gateway.giving (bytes : Bytes) : Gateway Unit := fun c s =>
  match c with
  | .download _ => (.ok bytes, s)
  | _ => (.error (.transport "no answer"), s)

/-- A plain file id is saved in a directory that is created for it. -/
theorem downloads_confined_for_plain :
    let saved := Saving.report (.giving [0x61, 0x0A]) () .empty [] (Path.ofText "d") "a1" "_report"
    '/' ∉ "_report".toList ∧ saved.answer = .ok (Path.ofText "d/a1_report.csv") ∧
      Downloaded (.giving [0x61, 0x0A]) () .empty [] (Path.ofText "d") "a1" "_report"
        (Path.ofText "d/a1_report.csv") saved.tree := by
  have hending : '/' ∉ "_report".toList := by decide +kernel
  have hanswer : (Saving.report (.giving [0x61, 0x0A]) () .empty [] (Path.ofText "d") "a1"
      "_report").answer = .ok (Path.ofText "d/a1_report.csv") := by decide +kernel
  exact ⟨hending, hanswer,
    (downloads_confined (.giving [0x61, 0x0A]) () .empty [] (Path.ofText "d") hending).1 _ _ hanswer⟩

/-- Two dots and a slash in a file id lead out of the directory: the download succeeds and writes a
file beside the directory and not in it. -/
theorem download_escapes_directory :
    let saved := Saving.report (.giving [0x61, 0x0A]) () .empty [] (Path.ofText "d") "../x" "_report"
    ∃ path here place, saved.answer = .ok path ∧
      saved.tree.home [] (Path.ofText "d") = .ok here ∧ saved.tree.locate [] path = .ok place ∧
      saved.tree.node? place = some (.file [0x61, 0x0A]) ∧ place.dropLast ≠ here :=
  ⟨Path.ofText "d/../x_report.csv", [Path.ofText "d"], [Path.ofText "x_report.csv"],
    by decide +kernel⟩

end CsvCleaning
