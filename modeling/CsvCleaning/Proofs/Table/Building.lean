import CsvCleaning.Table.Result
import Mathlib.Data.List.Nodup

/-!
# Which tables are accepted

A table is built precisely if no column occurs twice and every cell of a row is in a column.
-/

namespace CsvCleaning.ResultTable

/-- No column occurs twice, nor among those that were seen. -/
theorem firstRepeated?_eq_none_iff {seen columns : List String} :
    firstRepeated? seen columns = none ↔ columns.Nodup ∧ ∀ c ∈ columns, c ∉ seen := by
  induction columns generalizing seen with
  | nil => simp [firstRepeated?]
  | cons c rest ih =>
    rw [firstRepeated?]
    by_cases hc : c ∈ seen
    · simp [hc]
    · rw [if_neg hc, ih, List.nodup_cons, List.forall_mem_cons]
      simp only [List.mem_cons, not_or]
      constructor
      · rintro ⟨hnodup, hrest⟩
        exact ⟨⟨fun hmem => (hrest c hmem).1 rfl, hnodup⟩, hc, fun d hd => (hrest d hd).2⟩
      · rintro ⟨⟨hfresh, hnodup⟩, -, hrest⟩
        exact ⟨hnodup, fun d hd => ⟨fun heq => hfresh (heq ▸ hd), hrest d hd⟩⟩

/-- So no column occurs twice if none was seen before. -/
theorem firstRepeated?_nil_eq_none_iff {columns : List String} :
    firstRepeated? [] columns = none ↔ columns.Nodup := by
  simp [firstRepeated?_eq_none_iff]

/-- No cell of any row is outside the columns. -/
theorem firstStray?_eq_none_iff {columns : List String} {index : Nat} {rows : List Row} :
    firstStray? columns index rows = none ↔ ∀ row ∈ rows, ∀ k ∈ row.keys, k ∈ columns := by
  induction rows generalizing index with
  | nil => simp [firstStray?]
  | cons row rest ih =>
    have hrow : strayKey? columns row = none ↔ ∀ k ∈ row.keys, k ∈ columns := by
      simp [strayKey?]
    rw [firstStray?, List.forall_mem_cons, ← hrow]
    cases hstray : strayKey? columns row with
    | some k => simp
    | none => simpa using ih

/-- A table is built precisely if its columns differ and every cell is in one of them. -/
theorem build_eq_ok_iff {fileId : String} {rows : List Row} {columns : List String}
    {totalRows : Nat} {table : ResultTable} :
    build fileId rows columns totalRows = .ok table ↔
      columns.Nodup ∧ (∀ row ∈ rows, ∀ k ∈ row.keys, k ∈ columns) ∧
        table = ⟨fileId, rows, columns, totalRows⟩ := by
  have hrows : firstStray? columns 0 rows = none ↔ ∀ row ∈ rows, ∀ k ∈ row.keys, k ∈ columns :=
    firstStray?_eq_none_iff
  rw [← firstRepeated?_nil_eq_none_iff, ← hrows, build]
  cases firstRepeated? [] columns with
  | some c => simp
  | none =>
    cases firstStray? columns 0 rows with
    | some stray => simp
    | none => simp [eq_comm]

end CsvCleaning.ResultTable
