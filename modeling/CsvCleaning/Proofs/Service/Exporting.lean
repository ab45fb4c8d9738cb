import CsvCleaning.Proofs.Service.Rehearsal
import CsvCleaning.Proofs.SortedMap
import CsvCleaning.Proofs.Text.Joining
import CsvCleaning.Proofs.Text.Splitting
import CsvCleaning.Proofs.Text.Utf8

/-!
# The table of a rehearsal and its CSV form

A rehearsal makes its table up twice: as rows of cells for the result, and as bytes for the download.
No text in it holds a comma or a line break, so the bytes fall into the lines and fields that they were
put together of, and these are the names of the columns and the texts of the cells. The table depends
on the shape of the rehearsal only, which no call changes.
-/

namespace CsvCleaning

/-! ### Lines of fields -/

namespace Bytes

/-- The lines of bytes in which each line is ended by a line break. -/
def lines? (bs : Bytes) : Option (List Bytes) :=
  let parts := Text.splitWhere (· == 0x0A) bs
  if parts.getLast? = some [] then some parts.dropLast else none

/-- The lines of bytes, each in fields with commas between them. -/
def records? (bs : Bytes) : Option (List (List Bytes)) :=
  bs.lines?.map (·.map (Text.splitWhere (· == 0x2C)))

end Bytes

namespace Mock

/-- A text that can be a field: it holds no comma and no line break. -/
def IsField (s : String) : Prop :=
  ',' ∉ s.toList ∧ '\n' ∉ s.toList

instance (s : String) : Decidable (IsField s) :=
  inferInstanceAs (Decidable (_ ∧ _))

/-- A field behind another makes a field. -/
theorem IsField.append {s t : String} (hs : IsField s) (ht : IsField t) : IsField (s ++ t) := by
  rw [IsField, String.toList_append]
  exact ⟨List.not_mem_append hs.1 ht.1, List.not_mem_append hs.2 ht.2⟩

/-- A numeral is a field. -/
theorem isField_toString (n : Nat) : IsField (toString n) := by
  have hdigit {c : Char} (hc : c.isDigit = false) : c ∉ Nat.toDigits 10 n := fun hmem =>
    beq_eq_false_iff_ne.mp (Digits.beq_of_mem_toDigits hc n c hmem) rfl
  rw [IsField, Nat.toString_eq_ofList_toDigits, String.toList_ofList]
  exact ⟨hdigit rfl, hdigit rfl⟩

/-- There is no separator in the bytes of a field. -/
theorem IsField.bytes {s : String} (h : IsField s) :
    ∀ b ∈ Bytes.utf8 s, (b == 0x2C) = false ∧ (b == 0x0A) = false := by
  have hcomma : (0x2C : UInt8) ∉ Bytes.utf8 s := mt (Bytes.mem_ofChars_iff (a := ',') (by decide)).mp h.1
  have hbreak : (0x0A : UInt8) ∉ Bytes.utf8 s := mt (Bytes.mem_ofChars_iff (a := '\n') (by decide)).mp h.2
  intro b hb
  rw [beq_eq_false_iff_ne, beq_eq_false_iff_ne]
  exact ⟨fun heq => hcomma (heq ▸ hb), fun heq => hbreak (heq ▸ hb)⟩

/-- The bytes of a line are those of its fields, with commas between them and a line break behind. -/
theorem utf8_csvLine (fields : List String) :
    Bytes.utf8 (csvLine fields) = [0x2C].intercalate (fields.map Bytes.utf8) ++ [0x0A] := by
  rw [csvLine, Bytes.utf8_append, Bytes.utf8, String.toList_intercalate, Bytes.ofChars_intercalate,
    List.map_map]
  rfl

/-- Lines of fields are found again in the bytes, as long as no line is without fields. -/
theorem records?_join {records : List (List String)} (hne : ∀ record ∈ records, record ≠ [])
    (hfields : ∀ record ∈ records, ∀ field ∈ record, IsField field) :
    (Bytes.utf8 (String.join (records.map csvLine))).records? =
      some (records.map (·.map Bytes.utf8)) := by
  have hbytes : Bytes.utf8 (String.join (records.map csvLine)) =
      (records.map fun record => [0x2C].intercalate (record.map Bytes.utf8)).flatMap (· ++ [0x0A]) := by
    rw [Bytes.utf8_join, List.flatMap_map, List.flatMap_map]
    simp only [utf8_csvLine]
  have hwhole : ∀ line ∈ records.map fun record => [0x2C].intercalate (record.map Bytes.utf8),
      ∀ b ∈ line, (b == 0x0A) = false := by
    intro line hline b hb
    obtain ⟨record, hrecord, rfl⟩ := List.mem_map.mp hline
    rcases Text.of_mem_intercalate hb with hb | ⟨part, hpart, hb⟩
    · rw [List.mem_singleton.mp hb]
      decide
    · obtain ⟨field, hfield, rfl⟩ := List.mem_map.mp hpart
      exact ((hfields record hrecord field hfield).bytes b hb).2
  rw [Bytes.records?, Bytes.lines?, hbytes, Text.splitWhere_flatMap_append_of_all (by decide) hwhole]
  simp only [List.getLast?_concat, if_true, List.dropLast_concat, Option.map_some, List.map_map,
    Option.some.injEq]
  refine List.map_congr_left fun record hrecord => ?_
  refine Text.splitWhere_intercalate (by decide) (by simpa using hne record hrecord) fun part hpart => ?_
  obtain ⟨field, hfield, rfl⟩ := List.mem_map.mp hpart
  exact fun b hb => ((hfields record hrecord field hfield).bytes b hb).1

/-! ### The table -/

/-- The names of columns are fields. -/
theorem isField_columnName (j : Nat) : IsField (columnName j) := by
  have hid : IsField "id" := by decide
  have hcolumn : IsField "column_" := by decide
  unfold columnName
  split
  · exact hid
  · exact hcolumn.append (isField_toString j)

/-- The texts of cells are fields. -/
theorem isField_searchText_cell (i j : Nat) : IsField (Cell.searchText (cell i j)) := by
  have hr : IsField "r" := by decide
  have hc : IsField "c" := by decide
  unfold cell
  split
  · exact isField_toString i
  · exact ((hr.append (isField_toString i)).append hc).append (isField_toString j)

/-- The columns of a row are different. -/
theorem nodup_row (columns i : Nat) :
    (((List.range columns).map fun j => (columnName j, cell i j)).map (·.1)).Nodup := by
  rw [List.map_map]
  exact List.nodup_range.map columnName_injective

/-- A row has a cell in every column and no others. -/
theorem keys_row_perm (columns i : Nat) :
    (row columns i).keys.Perm ((List.range columns).map columnName) := by
  have hkeys := (SortedMap.entries_ofList_perm (nodup_row columns i)).map (·.1)
  rwa [List.map_map] at hkeys

/-- The cell of a row in a column. -/
theorem get?_row {columns i j : Nat} (hj : j < columns) :
    (row columns i).get? (columnName j) = some (cell i j) :=
  (SortedMap.get?_ofList_eq_some_iff (nodup_row columns i)).mpr
    (List.mem_map.mpr ⟨j, List.mem_range.mpr hj, rfl⟩)

variable (m : Mock)

/-- The texts of the table: the names of the columns, then those of each row in column order. -/
def texts : List (List String) :=
  m.columnNames :: (List.range m.rows).map fun i =>
    (List.range m.columns).map fun j => Cell.searchText (cell (i + 1) j)

/-- The CSV form has a line for each line of texts. -/
theorem csv_eq : m.csv = String.join (m.texts.map csvLine) := by
  rw [csv, texts, List.map_cons, String.join_cons, tableRows, List.map_map, List.map_map]
  congr 2
  refine List.map_congr_left fun i _ => ?_
  simp only [Function.comp_apply, columnNames, List.map_map]
  congr 1
  refine List.map_congr_left fun j hj => ?_
  simp only [Function.comp_apply, get?_row (List.mem_range.mp hj), Option.map_some, Option.getD_some]

/-- The bytes of the CSV form fall into the texts of the table. -/
theorem records?_csv (h : 1 ≤ m.columns) :
    (Bytes.utf8 m.csv).records? = some (m.texts.map (·.map Bytes.utf8)) := by
  have hsome : List.range m.columns ≠ [] := by
    rw [ne_eq, List.range_eq_nil]
    omega
  rw [csv_eq]
  refine records?_join (List.forall_mem_cons.mpr ⟨?_, ?_⟩) (List.forall_mem_cons.mpr ⟨?_, ?_⟩)
  · exact mt List.map_eq_nil_iff.mp hsome
  · intro record hrecord
    obtain ⟨i, -, rfl⟩ := List.mem_map.mp hrecord
    exact mt List.map_eq_nil_iff.mp hsome
  · intro field hfield
    obtain ⟨j, -, rfl⟩ := List.mem_map.mp hfield
    exact isField_columnName j
  · intro record hrecord field hfield
    obtain ⟨i, -, rfl⟩ := List.mem_map.mp hrecord
    obtain ⟨j, -, rfl⟩ := List.mem_map.mp hfield
    exact isField_searchText_cell (i + 1) j

/-- A line of fields tells a row: in the order of the columns it has the texts of the row's cells. -/
def Tells (columns : List String) (line : List Bytes) (row : Row) : Prop :=
  List.Forall₂ (fun field column =>
    ∃ cell, row.get? column = some cell ∧ field = Bytes.utf8 (Cell.searchText cell)) line columns

/-- The lines below the names tell the rows of the table, one each. -/
theorem forall₂_tells : List.Forall₂ (Tells m.columnNames)
    (((List.range m.rows).map fun i => (List.range m.columns).map fun j =>
      Cell.searchText (cell (i + 1) j)).map (·.map Bytes.utf8)) m.tableRows := by
  rw [List.map_map, tableRows, List.forall₂_map_left_iff, List.forall₂_map_right_iff]
  refine List.forall₂_same.mpr fun i _ => ?_
  rw [Tells, Function.comp_apply, List.map_map, columnNames, List.forall₂_map_left_iff,
    List.forall₂_map_right_iff]
  exact List.forall₂_same.mpr fun j hj => ⟨_, get?_row (List.mem_range.mp hj), rfl⟩

/-! ### Calls -/

/-- A call is noted and answered, after the delay if there is one. -/
theorem gateway_eq (c : Call) : gateway c m = answer c (m.log c) := by
  by_cases h : (m.log c).delay = 0 <;> simp only [gateway, Service.gateway, service, h, if_true, if_false]

/-- The bytes of the download are those of the CSV form, if the file is known. -/
theorem gateway_download (fileId : String) :
    (gateway (.download fileId) m).1 = (m.checkKnown fileId).map fun _ => Bytes.utf8 m.csv := by
  rw [gateway_eq, answer_of_no_failure (by simp [Call.stage?])]
  have hknown : (m.log (.download fileId)).checkKnown fileId = m.checkKnown fileId := rfl
  simp only [perform, hknown]
  cases m.checkKnown fileId <;> rfl

/-- The result is the table, once the script is executed and unless the result is told to fail. -/
theorem gateway_result_eq_ok_iff {fileId : String} {t : ResultTable} :
    (gateway (.result fileId) m).1 = .ok t ↔
      m.failures .result = none ∧ m.checkKnown fileId = .ok () ∧ m.progress.executed = true ∧
        t = ⟨fileId, m.tableRows, m.columnNames, m.rows⟩ := by
  have hfailure : (stageOf? (.result fileId)).bind (m.log (.result fileId)).failures =
      m.failures .result := rfl
  rw [gateway_eq, answer, hfailure]
  cases m.failures .result with
  | some f => simp
  | none =>
    have hknown : (m.log (.result fileId)).checkKnown fileId = m.checkKnown fileId := rfl
    simp only [perform, hknown]
    cases m.checkKnown fileId with
    | error f => simp
    | ok =>
      have hexecuted : (m.log (.result fileId)).progress.executed = m.progress.executed := rfl
      have htable : ResultTable.build fileId (m.log (.result fileId)).tableRows
          (m.log (.result fileId)).columnNames (m.log (.result fileId)).rows =
            .ok ⟨fileId, m.tableRows, m.columnNames, m.rows⟩ := build_table m fileId
      rw [hexecuted, htable]
      cases m.progress.executed <;> simp [eq_comm]

/-- A call makes progress at most. -/
theorem exists_perform_eq (c : Call) : ∃ progress, (m.perform c).2 = { m with progress := progress } := by
  cases c with
  | health | upload file => exact ⟨_, rfl⟩
  | process fileId | script fileId | download fileId =>
    rw [perform]
    split <;> exact ⟨_, rfl⟩
  | execute fileId | result fileId =>
    rw [perform]
    split
    · exact ⟨_, rfl⟩
    · split <;> exact ⟨_, rfl⟩
  | status fileId =>
    rw [perform]
    split
    · exact ⟨_, rfl⟩
    · split <;> exact ⟨_, rfl⟩

/-- The rehearsal after calls. -/
def after (calls : List Call) : Mock :=
  calls.foldl (fun m c => (gateway c m).2) m

/-- Calls change nothing but the progress and what is noted of them. -/
theorem exists_after_eq (calls : List Call) :
    ∃ progress noted, m.after calls = { m with progress := progress, calls := noted } := by
  induction calls generalizing m with
  | nil => exact ⟨_, _, rfl⟩
  | cons c rest ih =>
    obtain ⟨progress, hcall⟩ : ∃ progress, (gateway c m).2 = { m.log c with progress := progress } := by
      rw [gateway_eq, answer]
      split
      · exact ⟨_, rfl⟩
      · exact exists_perform_eq _ c
    obtain ⟨progress', noted, hrest⟩ := ih (gateway c m).2
    refine ⟨progress', noted, ?_⟩
    rw [after, List.foldl_cons, ← after, hrest, hcall]
    rfl

/-- The CSV form of a rehearsal tells its table. For every shape the columns differ, every row has a cell
in each of them and no others, and the table is accepted. Whatever calls are made, the result is given
once the file is known and the script executed, unless it is told to fail; and once the file is known the
bytes of the download fall at line breaks and commas into the names of the columns and a line for each
row of any result, in order, which has the texts of the row's cells in the order of the columns. -/
theorem download_tells_result (m : Mock) (rows columns : Nat) :
    let r := m.withShape rows columns
    (r.columnNames.length = max columns 1 ∧ r.tableRows.length = rows) ∧
    r.columnNames.Nodup ∧ (∀ row ∈ r.tableRows, row.keys.Perm r.columnNames) ∧
    (∀ fileId, ResultTable.build fileId r.tableRows r.columnNames r.rows =
      .ok ⟨fileId, r.tableRows, r.columnNames, r.rows⟩) ∧
    ∀ (calls : List Call) (fileId : String),
      ((∃ t : ResultTable, (gateway (.result fileId) (r.after calls)).1 = .ok t) ↔
        r.failures .result = none ∧ (r.after calls).checkKnown fileId = .ok () ∧
          (r.after calls).progress.executed = true) ∧
      ((r.after calls).checkKnown fileId = .ok () → ∃ bytes header lines,
        (gateway (.download fileId) (r.after calls)).1 = .ok bytes ∧
        bytes.records? = some (header :: lines) ∧
        ∀ (calls' : List Call) (fileId' : String) (t : ResultTable),
          (gateway (.result fileId') (r.after calls')).1 = .ok t →
            header = t.columns.map Bytes.utf8 ∧ List.Forall₂ (Tells t.columns) lines t.rows) := by
  intro r
  have hcolumns : 1 ≤ r.columns := one_le_columns_withShape m rows columns
  refine ⟨⟨?_, ?_⟩, r.nodup_columnNames, fun row hrow => ?_, r.build_table, fun calls fileId => ⟨?_, ?_⟩⟩
  · rw [columnNames, List.length_map, List.length_range]
    rfl
  · rw [tableRows, List.length_map, List.length_range]
    rfl
  · obtain ⟨i, -, rfl⟩ := List.mem_map.mp hrow
    exact keys_row_perm r.columns (i + 1)
  · obtain ⟨progress, noted, hafter⟩ := exists_after_eq r calls
    rw [hafter]
    constructor
    · rintro ⟨t, ht⟩
      obtain ⟨hfailure, hknown, hexecuted, -⟩ := (gateway_result_eq_ok_iff _).mp ht
      exact ⟨hfailure, hknown, hexecuted⟩
    · rintro ⟨hfailure, hknown, hexecuted⟩
      exact ⟨_, (gateway_result_eq_ok_iff _).mpr ⟨hfailure, hknown, hexecuted, rfl⟩⟩
  · intro hknown
    obtain ⟨progress, noted, hafter⟩ := exists_after_eq r calls
    refine ⟨Bytes.utf8 r.csv, _, _, ?_, r.records?_csv hcolumns, fun calls' fileId' t ht => ?_⟩
    · rw [gateway_download, hknown, hafter]
      rfl
    · obtain ⟨progress', noted', hafter'⟩ := exists_after_eq r calls'
      obtain ⟨-, -, -, rfl⟩ := (gateway_result_eq_ok_iff _).mp ht
      rw [hafter']
      exact ⟨rfl, r.forall₂_tells⟩

/-- Two rows and two columns. -/
example : ((ofFileId "abc123").withShape 2 2).csv = "id,column_1\n1,r1c1\n2,r2c1\n" := by
  decide +kernel

end Mock

end CsvCleaning
