import CsvCleaning.Proofs.Json.Printing
import CsvCleaning.Proofs.Table.Searching
import Mathlib.Algebra.Field.Rat
import Mathlib.Data.Int.CharZero

/-!
# Cells as they are shown and as they are searched

A cell has two texts, which are written apart. They are the same for every value that says something;
a value that says nothing is shown as the empty text. So all that is shown of a cell finds the row of
the cell again: a term is lower-cased by itself, but here the text it is looked for in is the same.
-/

namespace CsvCleaning

/-! ### Numbers that are zero -/

/-- The number that a finite value is. -/
def Binary64.toRat (x : Binary64) : ℚ :=
  (if x.negative then -1 else 1) * x.mantissa * 2 ^ x.exponent

/-- A finite value is zero, with either sign, if its mantissa is. -/
theorem Binary64.toRat_eq_zero_iff {x : Binary64} : x.toRat = 0 ↔ x.isZero = true := by
  have hsign : (if x.negative then -1 else 1 : ℚ) ≠ 0 := by split <;> simp
  have hpower : (2 : ℚ) ^ x.exponent ≠ 0 := zpow_ne_zero _ (by simp)
  rw [toRat, mul_eq_zero, or_iff_left hpower, mul_eq_zero, or_iff_right hsign, Nat.cast_eq_zero, isZero,
    beq_iff_eq]

namespace JsonNumber

/-- The number that a JSON number is. -/
def toRat : JsonNumber → ℚ
  | int n => n
  | real x => x.toRat

/-- It is decided of each kind whether it is zero. -/
theorem toRat_eq_zero_iff {n : JsonNumber} : n.toRat = 0 ↔ n.isZero = true := by
  cases n with
  | int n => rw [toRat, Int.cast_eq_zero, isZero, beq_iff_eq]
  | real x => exact Binary64.toRat_eq_zero_iff

end JsonNumber

/-! ### The two texts of a cell -/

namespace Cell

/-- A value that says nothing: null, false, the empty text, or a number that is zero. -/
inductive SaysNothing : Json → Prop
  | null : SaysNothing .null
  | no : SaysNothing (.bool false)
  | empty : SaysNothing (.text "")
  | zero (n : JsonNumber) (h : n.toRat = 0) : SaysNothing (.number n)

variable {v : Json}

/-- What says nothing is shown as the empty text. -/
theorem displayText_of_saysNothing (h : SaysNothing v) : displayText (some v) = "" := by
  cases h with
  | null | no | empty => rfl
  | zero n h => exact if_pos (JsonNumber.toRat_eq_zero_iff.mp h)

/-- All else is shown as the text that is searched, and this is not empty. -/
theorem displayText_of_not_saysNothing (h : ¬ SaysNothing v) :
    displayText (some v) = searchText v ∧ searchText v ≠ "" := by
  cases v with
  | null => exact absurd .null h
  | bool b =>
    cases b with
    | false => exact absurd .no h
    | true => exact ⟨rfl, Json.print_ne_empty _⟩
  | number n =>
    have hzero : ¬ n.isZero = true := fun hzero => h (.zero n (JsonNumber.toRat_eq_zero_iff.mpr hzero))
    exact ⟨if_neg hzero, n.write_ne_empty .plain⟩
  | text s =>
    have hne : s ≠ "" := fun hempty => h (hempty ▸ SaysNothing.empty)
    exact ⟨rfl, hne⟩
  | array items => exact ⟨rfl, Json.print_ne_empty _⟩
  | object members => exact ⟨rfl, Json.print_ne_empty _⟩

/-- The empty text is shown of what says nothing, and of nothing else. -/
theorem displayText_eq_empty_iff : displayText (some v) = "" ↔ SaysNothing v := by
  constructor
  · intro hempty
    by_contra h
    obtain ⟨hsame, hne⟩ := displayText_of_not_saysNothing h
    exact hne (hsame ▸ hempty)
  · exact displayText_of_saysNothing

end Cell

/-! ### Searching for what is shown -/

namespace View

variable {t : ResultTable} {row : Row}

/-- A row that a term selects is selected as often as the table has it. -/
theorem count_select {term : String} (h : row ∈ select (some t) term) :
    (select (some t) term).count row = t.rows.count row :=
  List.count_filter (p := fun row => _ || matchesTerm _ row) (List.mem_filter.mp h).2

/-- All that is shown of a cell selects its row. -/
theorem mem_select_displayText (hrow : row ∈ t.rows) (column : String) :
    row ∈ select (some t) (Cell.displayText (row.get? column)) := by
  by_cases hblank : Cell.displayText (row.get? column) = ""
  · -- The empty text selects every row.
    rw [hblank, select_empty]
    exact hrow
  · cases hcell : row.get? column with
    | none =>
      rw [hcell] at hblank
      exact absurd rfl hblank
    | some v =>
      rw [hcell] at hblank
      have hnot : ¬ Cell.SaysNothing v := mt Cell.displayText_of_saysNothing hblank
      have hmem : v ∈ row.values := List.mem_map_of_mem (SortedMap.get?_eq_some_iff.mp hcell)
      rw [(Cell.displayText_of_not_saysNothing hnot).1]
      exact mem_select hrow hmem (Text.occursIn_self _)

/-- What is shown of a value is the empty text exactly if the value says nothing, and else it is the text
that is searched. So in every view of a table, a search for all that is shown of a cell, or of a cell that
a row does not have, keeps the row, as often as the table has it. -/
theorem displayed_text_finds_row :
    (∀ v : Json, (Cell.displayText (some v) = "" ↔ Cell.SaysNothing v) ∧
      (¬ Cell.SaysNothing v → Cell.displayText (some v) = Cell.searchText v)) ∧
    ∀ (v : View) (t : ResultTable), v.table = some t → ∀ row ∈ t.rows, ∀ column : String,
      row ∈ (v.search (Cell.displayText (row.get? column))).filtered ∧
      (v.search (Cell.displayText (row.get? column))).filtered.count row = t.rows.count row := by
  constructor
  · intro v
    exact ⟨Cell.displayText_eq_empty_iff, fun h => (Cell.displayText_of_not_saysNothing h).1⟩
  · intro v t htable row hrow column
    have hselected := mem_select_displayText hrow column
    rw [search, htable]
    exact ⟨hselected, count_select hselected⟩

/-- A list says something even if all that is in it is a negative zero. A name that ends in a capital
sigma finds itself, though there are longer names that it does not find. -/
theorem displayed_name_finds_row :
    (¬ Cell.SaysNothing (.array [.number (.real (.zero true))]) ∧
      Cell.displayText (some (.array [.number (.real (.zero true))])) =
        Cell.searchText (.array [.number (.real (.zero true))])) ∧
    ∀ row ∈ (ResultTable.single "ΙΩΣ").rows, row.get? "name" = some (.text "ΙΩΣ") ∧
      row ∈ ((ofTable (some (.single "ΙΩΣ")) 10).search "ΙΩΣ").filtered := by
  have hnot : ¬ Cell.SaysNothing (.array [.number (.real (.zero true))]) := nofun
  refine ⟨⟨hnot, (displayed_text_finds_row.1 _).2 hnot⟩, fun row hrow => ?_⟩
  obtain rfl := List.mem_singleton.mp hrow
  exact ⟨rfl, (displayed_text_finds_row.2 (ofTable (some (.single "ΙΩΣ")) 10) _ rfl _ hrow "name").1⟩

end View

end CsvCleaning
