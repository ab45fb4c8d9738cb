import CsvCleaning.Proofs.Files.Creating
import CsvCleaning.Proofs.Table.Browsing
import CsvCleaning.Proofs.Table.Saving

/-!
# Downloads, all or nothing

A download asks the service first and touches the file tree only with its bytes in hand, so a refused
file id and a failed call leave the tree as it was. Once the bytes are there, what can be new are the
directories on the way to the chosen one and, if nothing is refused, the one file that the path of the
report leads to. Whatever a reader did with a view before, it downloads the report of its table.
-/

namespace CsvCleaning

/-- A gateway with the calls that it took, in order. -/
def Gateway.noting {σ : Type} (gateway : Gateway σ) : Gateway (σ × List Call) := fun c state =>
  ((gateway c state.1).1, (gateway c state.1).2, state.2 ++ [c])

/-- One file is replaced: the bytes are read where the path leads, and elsewhere nothing is new but
missing directories on the way to the directory of the file. -/
structure FileTree.Replaced (tree : FileTree) (cwd : Location) (dir path : Path) (bytes : Bytes)
    (tree' : FileTree) : Prop where
  read : tree'.read cwd path = .ok bytes
  rest : ∃ place, tree'.locate cwd path = .ok place ∧ ∀ other, other ≠ place →
    tree'.node? other = tree.node? other ∨
      (tree.node? other = none ∧ tree'.node? other = some .directory ∧
        tree'.LeadsThrough cwd dir other)

/-- Writing a file once its directory is created replaces this file only. -/
theorem FileTree.replaced_of_write {tree made tree' : FileTree} {cwd : Location} {dir path : Path}
    {bytes : Bytes} (hmade : tree.GrownAlong made cwd dir)
    (hwrite : made.write cwd path bytes = .ok tree') : tree.Replaced cwd dir path bytes tree' := by
  obtain ⟨place, hplace, hnode, rfl⟩ := exists_of_write hwrite
  have hdirectories (l : Location) : made.node? l = some .directory →
      (made.put place (.file bytes)).node? l = some .directory := directory_put hnode _
  refine ⟨read_of_write hwrite, place, locate_mono hdirectories hplace, fun other hother => ?_⟩
  rw [node?_put_of_ne made hother]
  exact (hmade other).imp_right fun ⟨hnone, hnew, hway⟩ => ⟨hnone, hnew, hway.mono hdirectories⟩

namespace Saving

variable {σ : Type} {gateway : Gateway σ} {s : σ} {tree : FileTree} {cwd : Location} {dir : Path}
  {fileId ending : String}

/-- Storing has nothing to do with the gateway. -/
theorem store_eq (s : σ) (tree : FileTree) (cwd : Location) (dir : Path) (fileId ending : String)
    (bytes : Bytes) :
    store s tree cwd dir fileId ending bytes =
      ⟨(store () tree cwd dir fileId ending bytes).answer, s,
        (store () tree cwd dir fileId ending bytes).tree⟩ := by
  unfold store
  split
  · rfl
  · dsimp only
    split <;> rfl

/-- Bytes replace the file that the path of the report leads to, or the file tree refuses and has at most
grown by directories. -/
theorem store_replaces (s : σ) (tree : FileTree) (cwd : Location) (dir : Path) (fileId ending : String)
    (bytes : Bytes) :
    (∃ tree', store s tree cwd dir fileId ending bytes =
        ⟨.ok (reportPath dir fileId ending), s, tree'⟩ ∧
        tree.Replaced cwd dir (reportPath dir fileId ending) bytes tree') ∨
      ∃ fault made, store s tree cwd dir fileId ending bytes = ⟨.error (FileFault.failure fault), s, made⟩ ∧
        tree.GrownAlong made cwd dir := by
  have hgrown := FileTree.grownAlong_createDirectories tree cwd dir
  rcases store_cases s tree cwd dir fileId ending bytes with
    ⟨made, tree', hmade, hwrite, hstored⟩ | ⟨fault, hrefused⟩
  · rw [hmade] at hgrown
    exact .inl ⟨tree', hstored, FileTree.replaced_of_write hgrown hwrite⟩
  · exact .inr ⟨fault, _, hrefused, hgrown⟩

/-- To note the calls changes nothing else, and only a file id that is not blank is called for. -/
theorem report_noting (gateway : Gateway σ) (s : σ) (tree : FileTree) (cwd : Location) (dir : Path)
    (fileId ending : String) :
    let noted := report gateway.noting (s, []) tree cwd dir fileId ending
    report gateway s tree cwd dir fileId ending = ⟨noted.answer, noted.gateway.1, noted.tree⟩ ∧
      noted.gateway.2 = if Text.allBlank fileId then [] else [.download fileId] := by
  intro noted
  cases hid : Text.allBlank fileId with
  | true =>
    have hnoted : noted = _ := report_of_blank hid
    rw [hnoted, report_of_blank hid]
    exact ⟨rfl, rfl⟩
  | false =>
    rcases hgiven : gateway (.download fileId) s with ⟨f | bytes, s'⟩
    · have hnoting : gateway.noting (.download fileId) (s, []) = (.error f, s', [.download fileId]) := by
        simp [Gateway.noting, hgiven]
      have hnoted : noted = _ := report_of_error hid hnoting
      rw [hnoted, report_of_error hid hgiven]
      exact ⟨rfl, rfl⟩
    · have hnoting : gateway.noting (.download fileId) (s, []) = (.ok bytes, s', [.download fileId]) := by
        simp [Gateway.noting, hgiven]
      have hnoted : noted = _ := report_of_ok hid hnoting
      rw [hnoted, report_of_ok hid hgiven, store_eq, store_eq (s', _)]
      exact ⟨rfl, rfl⟩

/-- A download is all or nothing. A blank file id is refused without a call, every other is called for
once, and a failed call is the answer; the tree then stays as it is. With the bytes given, a path is
returned, or the file tree refuses and has at most grown by directories on the way to the chosen one. A
path that is returned is that of the report in the directory, and the file it leads to is replaced. -/
structure AllOrNothing (gateway : Gateway σ) (s : σ) (tree : FileTree) (cwd : Location) (dir : Path)
    (fileId ending : String) (answer : Except Failure Path) (calls : List Call) (tree' : FileTree) :
    Prop where
  blank : Text.allBlank fileId = true →
    answer = .error (.validation "missing file id") ∧ calls = [] ∧ tree' = tree
  called : Text.allBlank fileId = false → calls = [.download fileId]
  failed (f : Failure) : Text.allBlank fileId = false →
    (gateway (.download fileId) s).1 = .error f → answer = .error f ∧ tree' = tree
  given (bytes : Bytes) : Text.allBlank fileId = false →
    (gateway (.download fileId) s).1 = .ok bytes → (∃ path, answer = .ok path) ∨
      ∃ fault, answer = .error (FileFault.failure fault) ∧ tree.GrownAlong tree' cwd dir
  saved (path : Path) : answer = .ok path →
    path = dir.join (Path.ofText (FileName.report fileId ending)) ∧
    ∃ bytes, (gateway (.download fileId) s).1 = .ok bytes ∧
      tree.Replaced cwd dir path bytes tree'

/-- Every download is. -/
theorem allOrNothing_report (gateway : Gateway σ) (s : σ) (tree : FileTree) (cwd : Location)
    (dir : Path) (fileId ending : String) :
    let result := report gateway s tree cwd dir fileId ending
    AllOrNothing gateway s tree cwd dir fileId ending result.answer
      (if Text.allBlank fileId then [] else [.download fileId]) result.tree := by
  intro result
  cases hid : Text.allBlank fileId with
  | true =>
    have hresult : result = _ := report_of_blank hid
    rw [hresult]
    refine ⟨fun _ => ⟨rfl, rfl, rfl⟩, ?_, ?_, ?_, fun path hpath => by cases hpath⟩ <;> simp [hid]
  | false =>
    rcases hgiven : gateway (.download fileId) s with ⟨f | bytes, s'⟩
    · have hresult : result = _ := report_of_error hid hgiven
      rw [hresult]
      refine ⟨?_, fun _ => rfl, fun f' _ hf => ?_, ?_, fun path hpath => by cases hpath⟩
      · simp [hid]
      · rw [hgiven] at hf
        exact ⟨hf, rfl⟩
      · simp [hgiven]
    · have hresult : result = _ := report_of_ok hid hgiven
      rcases store_replaces s' tree cwd dir fileId ending bytes with
        ⟨tree', hstored, hreplaced⟩ | ⟨fault, made, hrefused, hgrown⟩
      · rw [hresult, hstored]
        refine ⟨?_, fun _ => rfl, ?_, fun _ _ _ => .inl ⟨_, rfl⟩, fun path hpath => ?_⟩
        · simp [hid]
        · simp [hgiven]
        · obtain rfl := Except.ok.inj hpath
          exact ⟨rfl, bytes, by rw [hgiven], hreplaced⟩
      · rw [hresult, hrefused]
        refine ⟨?_, fun _ => rfl, ?_, fun _ _ _ => .inr ⟨fault, rfl, hgrown⟩,
          fun path hpath => by cases hpath⟩
        · simp [hid]
        · simp [hgiven]

end Saving

/-- Downloads are all or nothing. This holds for every gateway, file tree, directory, file id and
ending, and noting the calls changes nothing else. A view without a table calls and changes nothing; any
other does what the download of its table's file id does, whatever was searched and whichever page is
shown. -/
theorem downloads_all_or_nothing {σ : Type} (gateway : Gateway σ) (s : σ) (tree : FileTree)
    (cwd : Location) (dir : Path) (ending : String) :
    (∀ fileId : String,
      let result := Saving.report gateway.noting (s, []) tree cwd dir fileId ending
      Saving.report gateway s tree cwd dir fileId ending =
        ⟨result.answer, result.gateway.1, result.tree⟩ ∧
      Saving.AllOrNothing gateway s tree cwd dir fileId ending result.answer result.gateway.2
        result.tree) ∧
    ∀ (v : View) (actions : List View.Action),
      let result := (v.after actions).download gateway.noting (s, []) tree cwd dir ending
      (v.table = none → result = ⟨.ok none, (s, []), tree⟩) ∧
      ∀ table, v.table = some table →
        let saved := Saving.report gateway.noting (s, []) tree cwd dir table.fileId ending
        result = ⟨saved.answer.map some, saved.gateway, saved.tree⟩ := by
  refine ⟨fun fileId => ?_, fun v actions => ⟨fun hnone => ?_, fun table htable => ?_⟩⟩
  · obtain ⟨hplain, hcalls⟩ := Saving.report_noting gateway s tree cwd dir fileId ending
    have hreport := Saving.allOrNothing_report gateway s tree cwd dir fileId ending
    rw [hplain, ← hcalls] at hreport
    exact ⟨hplain, hreport⟩
  · rw [View.download, View.table_after, hnone]
  · rw [View.download, View.table_after, htable]

end CsvCleaning
