import CsvCleaning.Proofs.Table.Building
import CsvCleaning.Table.View

/-!
# Refused tables and the cells of accepted ones

A table is refused for its columns before its rows are looked at: for the first column that occurs
before too, and else for the first row with a cell outside the columns and the least such cell. Both
searches stop at the first hit, so what they report is told by what they passed. In an accepted table
every cell has a column of its own, and a search finds nothing that has no place on the page.
-/

namespace CsvCleaning

namespace ResultTable

variable {columns : List String} {rows : List Row}

/-! ### The first repeated column -/

/-- A column is the first that equals an earlier one. -/
def IsFirstRepeated (columns : List String) (c : String) : Prop :=
  ∃ before after, columns = before ++ c :: after ∧ before.Nodup ∧ c ∈ before

/-- Columns are looked at one after the other, and those passed are seen. -/
theorem firstRepeated?_append (seen before rest : List String) :
    firstRepeated? seen (before ++ rest) =
      (firstRepeated? seen before).or (firstRepeated? (before.reverse ++ seen) rest) := by
  induction before generalizing seen with
  | nil => rfl
  | cons c before ih =>
    rw [List.cons_append, firstRepeated?, firstRepeated?]
    split
    · rfl
    · rw [ih, List.reverse_cons, List.append_assoc, List.singleton_append]

/-- A column that is reported occurs before or was seen, and nothing before it was reported. -/
theorem exists_of_firstRepeated? {seen : List String} {c : String}
    (h : firstRepeated? seen columns = some c) :
    ∃ before after, columns = before ++ c :: after ∧ firstRepeated? seen before = none ∧
      (c ∈ before ∨ c ∈ seen) := by
  induction columns generalizing seen with
  | nil => cases h
  | cons d rest ih =>
    rw [firstRepeated?] at h
    by_cases hd : d ∈ seen
    · rw [if_pos hd] at h
      obtain rfl := Option.some.inj h
      exact ⟨[], rest, rfl, rfl, .inr hd⟩
    · rw [if_neg hd] at h
      obtain ⟨before, after, rfl, hnone, hc⟩ := ih h
      refine ⟨d :: before, after, rfl, by rw [firstRepeated?, if_neg hd, hnone], ?_⟩
      simpa only [List.mem_cons, or_assoc, or_left_comm] using hc

/-- The column that is reported is the first that equals an earlier one. -/
theorem firstRepeated?_eq_some_iff {c : String} :
    firstRepeated? [] columns = some c ↔ IsFirstRepeated columns c := by
  constructor
  · intro h
    obtain ⟨before, after, hcolumns, hnone, hc⟩ := exists_of_firstRepeated? h
    exact ⟨before, after, hcolumns, firstRepeated?_nil_eq_none_iff.mp hnone,
      hc.resolve_right List.not_mem_nil⟩
  · rintro ⟨before, after, rfl, hdistinct, hc⟩
    rw [firstRepeated?_append, firstRepeated?_nil_eq_none_iff.mpr hdistinct, Option.none_or,
      firstRepeated?, if_pos (List.mem_append_left _ (List.mem_reverse.mpr hc))]

/-! ### The first stray cell -/

/-- A row, counted from zero, is the first that has a cell outside the columns, and of its keys this is
the least that is not among them. -/
def IsFirstStray (columns : List String) (rows : List Row) (index : Nat) (k : String) : Prop :=
  ∃ before row after, rows = before ++ row :: after ∧ before.length = index ∧
    (∀ r ∈ before, ∀ k' ∈ r.keys, k' ∈ columns) ∧
    k ∈ row.keys ∧ k ∉ columns ∧ ∀ k' ∈ row.keys, k' ∉ columns → k ≤ k'

/-- The stray cell of a row is its least cell outside the columns. -/
theorem strayKey?_eq_some_iff {row : Row} {k : String} :
    strayKey? columns row = some k ↔
      k ∈ row.keys ∧ k ∉ columns ∧ ∀ k' ∈ row.keys, k' ∉ columns → k ≤ k' := by
  constructor
  · intro h
    refine ⟨List.mem_of_find?_eq_some h, by simpa using List.find?_some h, fun k' hk' hout => ?_⟩
    exact SortedMap.le_of_find?_keys h hk' (by simpa using hout)
  · rintro ⟨hk, hout, hleast⟩
    cases h : strayKey? columns row with
    | none =>
      have hinside := List.find?_eq_none.mp h k hk
      exact absurd hout (by simpa using hinside)
    | some first =>
      have hle : first ≤ k := SortedMap.le_of_find?_keys h hk (by simpa using hout)
      have hge : k ≤ first :=
        hleast first (List.mem_of_find?_eq_some h) (by simpa using List.find?_some h)
      exact congrArg some (String.le_antisymm hle hge)

/-- Rows are looked at one after the other, and those passed are counted. -/
theorem firstStray?_append (start : Nat) (before rest : List Row) :
    firstStray? columns start (before ++ rest) =
      (firstStray? columns start before).or (firstStray? columns (start + before.length) rest) := by
  induction before generalizing start with
  | nil => rfl
  | cons row before ih =>
    rw [List.cons_append, firstStray?, firstStray?]
    split
    · rfl
    · rw [ih, List.length_cons, Nat.add_right_comm, Nat.add_assoc]

/-- A row that is reported has the stray cell, and nothing before it was reported. -/
theorem exists_of_firstStray? {start index : Nat} {k : String}
    (h : firstStray? columns start rows = some (index, k)) :
    ∃ before row after, rows = before ++ row :: after ∧ index = start + before.length ∧
      firstStray? columns start before = none ∧ strayKey? columns row = some k := by
  induction rows generalizing start with
  | nil => cases h
  | cons row rest ih =>
    rw [firstStray?] at h
    cases hstray : strayKey? columns row with
    | some k' =>
      rw [hstray] at h
      obtain ⟨rfl, rfl⟩ := Prod.mk.inj (Option.some.inj h)
      exact ⟨[], row, rest, rfl, rfl, rfl, hstray⟩
    | none =>
      rw [hstray] at h
      obtain ⟨before, row', after, rfl, rfl, hnone, hk⟩ := ih h
      refine ⟨row :: before, row', after, rfl, ?_, ?_, hk⟩
      · rw [List.length_cons]
        omega
      · rw [firstStray?, hstray]
        exact hnone

/-- The row that is reported is the first with a cell outside the columns, and with its least one. -/
theorem firstStray?_eq_some_iff {index : Nat} {k : String} :
    firstStray? columns 0 rows = some (index, k) ↔ IsFirstStray columns rows index k := by
  constructor
  · intro h
    obtain ⟨before, row, after, hrows, hindex, hnone, hk⟩ := exists_of_firstStray? h
    exact ⟨before, row, after, hrows, by rw [hindex, Nat.zero_add],
      firstStray?_eq_none_iff.mp hnone, strayKey?_eq_some_iff.mp hk⟩
  · rintro ⟨before, row, after, rfl, rfl, hpassed, hk⟩
    rw [firstStray?_append, firstStray?_eq_none_iff.mpr hpassed, Option.none_or, firstStray?,
      strayKey?_eq_some_iff.mpr hk, Nat.zero_add]

/-! ### Acceptance -/

/-- A table is refused for a repeated column, or with distinct columns for a stray cell. -/
theorem build_eq_error_iff {fileId : String} {totalRows : Nat} {f : Failure} :
    build fileId rows columns totalRows = .error f ↔
      (∃ c, IsFirstRepeated columns c ∧
        f = .malformedResponse ("duplicate column '" ++ c ++ "' in result")) ∨
      columns.Nodup ∧ ∃ index k, IsFirstStray columns rows index k ∧
        f = .malformedResponse ("row " ++ toString index ++ " has column '" ++ k ++
          "' missing from the column list") := by
  simp only [← firstRepeated?_eq_some_iff, ← firstStray?_eq_some_iff,
    ← firstRepeated?_nil_eq_none_iff, build]
  cases firstRepeated? [] columns with
  | some c => simp [eq_comm]
  | none =>
    rcases firstStray? columns 0 rows with - | ⟨index, k⟩
    · simp
    · constructor
      · intro h
        exact .inr ⟨rfl, index, k, rfl, (Except.error.inj h).symm⟩
      · rintro (⟨c, hc, -⟩ | ⟨-, index', k', hstray, rfl⟩)
        · cases hc
        · cases hstray
          rfl

end ResultTable

namespace View

/-- A row is selected if a cell of it has the term, or there is no term. -/
theorem mem_select_iff {t : ResultTable} {term : String} {row : Row} :
    row ∈ select (some t) term ↔ row ∈ t.rows ∧ (Text.lower term.toList = [] ∨
      ∃ k cell, (k, cell) ∈ row.entries ∧
        Text.occursIn (Text.lower term.toList) (Text.lower (Cell.searchText cell).toList) = true) := by
  simp [select, matchesTerm, SortedMap.values]

/-- A cell of a row is shown in a column of a table if it is under the name of this column and stands at
its place among the cells that are shown of the row. -/
structure ShownIn (columns : List String) (row : Row) (k : String) (cell : Json) (i : Nat) : Prop where
  column : columns[i]? = some k
  shown : (rowCells columns row)[i]? = some (Cell.shown (some cell))

/-- A cell under one of the distinct columns is shown in exactly one of them. -/
theorem existsUnique_shownIn {columns : List String} {row : Row} {k : String} {cell : Json}
    (hdistinct : columns.Nodup) (hk : k ∈ columns) (hcell : (k, cell) ∈ row.entries) :
    ∃! i, ShownIn columns row k cell i := by
  obtain ⟨i, hi, hat⟩ := List.getElem_of_mem hk
  have hcolumn : columns[i]? = some k := by rw [List.getElem?_eq_getElem hi, hat]
  refine ⟨i, ⟨hcolumn, ?_⟩, fun j hj => ?_⟩
  · rw [rowCells, List.getElem?_map, hcolumn, Option.map_some, SortedMap.get?_eq_some_iff.mpr hcell]
  · exact ((List.getElem?_inj hi hdistinct).mp (hcolumn.trans hj.column.symm)).symm

end View

namespace ResultTable

/-- Exactly the consistent tables are accepted. A table is built, of all its parts as they are, if its
columns differ and every key of every row is one of them. Otherwise it is refused for the first column
that equals an earlier one, and if there is none, for the first row with a key that is no column and
its least such key. So in every view of an accepted table a search looks at the cells of its rows and
nothing else, and each of these is shown in exactly one column. -/
theorem build_accepts_consistent (fileId : String) (rows : List Row) (columns : List String)
    (totalRows : Nat) :
    (∀ t, build fileId rows columns totalRows = .ok t ↔
      (columns.Nodup ∧ ∀ row ∈ rows, ∀ k ∈ row.keys, k ∈ columns) ∧
        t = ⟨fileId, rows, columns, totalRows⟩) ∧
    (∀ f, build fileId rows columns totalRows = .error f ↔
      (∃ c, IsFirstRepeated columns c ∧
        f = .malformedResponse ("duplicate column '" ++ c ++ "' in result")) ∨
      columns.Nodup ∧ ∃ index k, IsFirstStray columns rows index k ∧
        f = .malformedResponse ("row " ++ toString index ++ " has column '" ++ k ++
          "' missing from the column list")) ∧
    ∀ t, build fileId rows columns totalRows = .ok t → ∀ v : View, v.table = some t →
      (∀ term row, row ∈ (v.search term).filtered ↔ row ∈ t.rows ∧ (Text.lower term.toList = [] ∨
        ∃ k cell, (k, cell) ∈ row.entries ∧ Text.occursIn (Text.lower term.toList)
          (Text.lower (Cell.searchText cell).toList) = true)) ∧
      ∀ row ∈ t.rows, ∀ k cell, (k, cell) ∈ row.entries →
        ∃! i, View.ShownIn t.columns row k cell i := by
  refine ⟨fun t => by rw [build_eq_ok_iff, and_assoc], fun f => build_eq_error_iff,
    fun t ht v htable => ⟨fun term row => ?_, fun row hrow k cell hcell => ?_⟩⟩
  · rw [View.search, htable]
    exact View.mem_select_iff
  · obtain ⟨hdistinct, hknown, rfl⟩ := build_eq_ok_iff.mp ht
    have hk : k ∈ row.keys := List.mem_map_of_mem hcell
    exact View.existsUnique_shownIn hdistinct (hknown row hrow k hk) hcell

end ResultTable

end CsvCleaning
