import CsvCleaning.Proofs.Text.Casing
import CsvCleaning.Table.View

/-!
# Searching a table for what it says

A search compares lower-case forms, so it is not clear that a row is found by a part of one of its
own cells. It is found if the part is settled, in particular if there is no capital sigma in it. A
part with a loose sigma is searched for in a form that it does not have everywhere, and there are
rows that it misses.
-/

namespace CsvCleaning

namespace View

/-- A term selects the rows that have a cell in whose lower-case form its own occurs. -/
theorem mem_select {t : ResultTable} {term : String} {row : Row} {cell : Json} (hrow : row ∈ t.rows)
    (hcell : cell ∈ row.values)
    (h : Text.occursIn (Text.lower term.toList) (Text.lower (Cell.searchText cell).toList) = true) :
    row ∈ select (some t) term := by
  refine List.mem_filter.2 ⟨hrow, Bool.or_eq_true_iff.2 (.inr ?_)⟩
  exact List.any_eq_true.2 ⟨cell, hcell, h⟩

/-- A row that a term selects has a cell in whose lower-case form that of the term occurs, or the
term is empty. -/
theorem exists_of_mem_select {t : ResultTable} {term : String} {row : Row}
    (h : row ∈ select (some t) term) (hterm : Text.lower term.toList ≠ []) :
    ∃ cell ∈ row.values,
      Text.occursIn (Text.lower term.toList) (Text.lower (Cell.searchText cell).toList) = true := by
  obtain ⟨-, h⟩ := List.mem_filter.1 h
  rcases Bool.or_eq_true_iff.1 h with hempty | hmatch
  · exact absurd (List.isEmpty_iff.1 hempty) hterm
  · exact List.any_eq_true.1 hmatch

end View

/-- The table of a single cell with a text. -/
def ResultTable.single (text : String) : ResultTable :=
  ⟨"a1", [SortedMap.empty.insert "name" (.text text)], ["name"], 1⟩

/-- The table of a single cell is accepted. -/
theorem ResultTable.build_single (text : String) :
    ResultTable.build "a1" (single text).rows ["name"] 1 = .ok (single text) := by
  rfl

namespace View

/-- The only cell of a table decides whether its row is selected. -/
theorem not_mem_select_single {term text : String} {row : Row}
    (hrow : row ∈ (ResultTable.single text).rows)
    (h : Text.occursIn (Text.lower term.toList) (Text.lower text.toList) = false) :
    row ∉ select (some (.single text)) term := by
  intro hselected
  have hterm : Text.lower term.toList ≠ [] := fun hnil => by
    rw [hnil, Text.occursIn_nil] at h
    cases h
  obtain ⟨cell, hcell, hoccurs⟩ := exists_of_mem_select hselected hterm
  obtain rfl := List.mem_singleton.1 hrow
  obtain rfl := List.mem_singleton.1 hcell
  exact Bool.eq_false_iff.1 h hoccurs

/-- A search for a part of a cell, letter for letter, finds the row in every table exactly if the
part is settled; it is if there is no capital sigma in it. Any other term misses some row that has
it. -/
theorem search_finds_iff_isSettled (term : String) :
    (Text.capitalSigma ∉ term.toList → Text.isSettled term.toList = true) ∧
      (Text.isSettled term.toList = true →
        ∀ (v : View) (t : ResultTable) (row : Row) (cell : Json), v.table = some t →
          row ∈ t.rows → cell ∈ row.values → term.toList <:+: (Cell.searchText cell).toList →
            row ∈ (v.search term).filtered) ∧
      (Text.isSettled term.toList = false →
        ∃ (t : ResultTable) (row : Row) (cell : Json),
          ResultTable.build t.fileId t.rows t.columns t.totalRows = .ok t ∧
            row ∈ t.rows ∧ cell ∈ row.values ∧ term.toList <:+: (Cell.searchText cell).toList ∧
              ∀ v : View, v.table = some t → row ∉ (v.search term).filtered) := by
  refine ⟨Text.isSettled_of_not_mem, ?_, ?_⟩
  · rintro hsettled v t row cell htable hrow hcell ⟨before, after, htext⟩
    have hoccurs := Text.occursIn_lower_of_isSettled hsettled before after
    rw [htext] at hoccurs
    rw [search, htable]
    exact mem_select hrow hcell hoccurs
  · intro hloose
    obtain ⟨before, after, hmissed⟩ := Text.exists_not_occursIn_lower hloose
    let text := String.ofList (before ++ term.toList ++ after)
    have htext : text.toList = before ++ term.toList ++ after := String.toList_ofList
    refine ⟨.single text, _, .text text, ResultTable.build_single text, List.mem_singleton_self _,
      List.mem_singleton_self _, ⟨before, after, htext.symm⟩, fun v htable => ?_⟩
    rw [search, htable]
    rw [← htext] at hmissed
    exact not_mem_select_single (List.mem_singleton_self _) hmissed

/-- A name is found by a part of it in which a capital sigma stands inside a word. -/
theorem search_finds_inner_sigma :
    Text.isSettled "ΙΩΣΗ".toList = true ∧
      "ΙΩΣΗ".toList <:+: (Cell.searchText (.text "ΙΩΣΗΦ")).toList ∧
        ∀ row ∈ (ResultTable.single "ΙΩΣΗΦ").rows,
          row ∈ ((ofTable (some (.single "ΙΩΣΗΦ")) 10).search "ΙΩΣΗ").filtered := by
  have hsettled : Text.isSettled "ΙΩΣΗ".toList = true := by decide +kernel
  have hinfix : "ΙΩΣΗ".toList <:+: (Cell.searchText (.text "ΙΩΣΗΦ")).toList :=
    ⟨[], ['Φ'], by decide +kernel⟩
  refine ⟨hsettled, hinfix, fun row hrow => ?_⟩
  obtain rfl := List.mem_singleton.1 hrow
  exact (search_finds_iff_isSettled "ΙΩΣΗ").2.1 hsettled _ _ _ (.text "ΙΩΣΗΦ") rfl hrow
    (List.mem_singleton_self _) hinfix

/-- The same name is missed by the part that ends at the sigma: by itself this part is lower-cased
with a final sigma, and in the name it is not. -/
theorem search_misses_last_sigma :
    "ΙΩΣ".toList <:+: (Cell.searchText (.text "ΙΩΣΗΦ")).toList ∧
      (∀ row ∈ (ResultTable.single "ΙΩΣΗΦ").rows, .text "ΙΩΣΗΦ" ∈ row.values) ∧
        ((ofTable (some (.single "ΙΩΣΗΦ")) 10).search "ΙΩΣ").filtered = [] :=
  ⟨⟨[], ['Η', 'Φ'], by decide +kernel⟩, by decide +kernel, by decide +kernel⟩

end View

end CsvCleaning
