import CsvCleaning.Table.View
import Mathlib.Logic.Function.Iterate

/-!
# The pages of a table

The pages of a view cut its rows into runs of the page size, in order and up to the remainder on
the last page. A page number is in use exactly when the pages before it leave rows over, and all
the bounds of this module follow from that.
-/

namespace CsvCleaning

namespace View

section GoTo

variable (v : View) (p : Nat)

/-- The page size stays. -/
@[simp]
theorem pageSize_goTo : (v.goTo p).pageSize = v.pageSize := rfl

/-- The rows stay. -/
@[simp]
theorem filtered_goTo : (v.goTo p).filtered = v.filtered := rfl

/-- The number of pages stays. -/
@[simp]
theorem totalPages_goTo : (v.goTo p).totalPages = v.totalPages := rfl

/-- Only the last page gone to counts. -/
@[simp]
theorem goTo_goTo (q : Nat) : (v.goTo p).goTo q = v.goTo q := rfl

/-- The page gone to, between the first and the last. -/
theorem page_goTo : (v.goTo p).page = max (min p v.totalPages) 1 := rfl

end GoTo

/-- A page that exists is the one gone to. -/
theorem page_goTo_of_le {v : View} {p : Nat} (one : 1 ≤ p) (le : p ≤ v.totalPages) :
    (v.goTo p).page = p := by
  rw [page_goTo, Nat.min_eq_left le, Nat.max_eq_left one]

/-- Two requests for the same nearest page lead to the same view. -/
theorem goTo_congr {v : View} {p q : Nat} (h : (v.goTo p).page = (v.goTo q).page) :
    v.goTo p = v.goTo q := by
  simp only [page_goTo] at h
  simp only [goTo, h]

/-- To go to the page one is on changes nothing, as long as that page exists. -/
theorem goTo_page {v : View} (one : 1 ≤ v.page) (le : v.page ≤ max v.totalPages 1) :
    v.goTo v.page = v := by
  have same : max (min v.page v.totalPages) 1 = v.page := by omega
  simp only [goTo, same]

/-- A page is followed by another exactly when the pages up to it leave rows over. -/
theorem lt_totalPages_iff {v : View} (room : 1 ≤ v.pageSize) (p : Nat) :
    p < v.totalPages ↔ p * v.pageSize < v.filtered.length := by
  have ceiling : p + 1 ≤ v.totalPages ↔
      (p + 1) * v.pageSize ≤ v.filtered.length + v.pageSize - 1 :=
    Nat.le_div_iff_mul_le room
  rw [Nat.succ_mul] at ceiling
  omega

/-- All rows fit on the pages. -/
theorem length_le_totalPages_mul {v : View} (room : 1 ≤ v.pageSize) :
    v.filtered.length ≤ v.totalPages * v.pageSize :=
  Nat.le_of_not_lt fun lt => Nat.lt_irrefl _ ((lt_totalPages_iff room _).mpr lt)

/-- There are no more pages than rows. -/
theorem totalPages_le_length {v : View} (room : 1 ≤ v.pageSize) :
    v.totalPages ≤ v.filtered.length :=
  Nat.le_of_not_lt fun lt =>
    Nat.not_lt.mpr (Nat.le_mul_of_pos_right _ room) ((lt_totalPages_iff room _).mp lt)

/-- There are no pages exactly when there are no rows. -/
theorem totalPages_eq_zero_iff {v : View} (room : 1 ≤ v.pageSize) :
    v.totalPages = 0 ↔ v.filtered = [] := by
  have used := lt_totalPages_iff room 0
  rw [← List.length_eq_zero_iff]
  omega

/-- The rows before a page that exists are full pages. -/
theorem startIndex_goTo {v : View} {p : Nat} (one : 1 ≤ p) (le : p ≤ v.totalPages) :
    (v.goTo p).startIndex = (p - 1) * v.pageSize := by
  rw [startIndex, page_goTo_of_le one le, pageSize_goTo]

/-- The number of rows of a page: its size, or what is left. -/
theorem length_pageRows (v : View) :
    v.pageRows.length = min v.pageSize (v.filtered.length - v.startIndex) := by
  simp [pageRows]

/-- The first chunks of a list, joined, are its first elements. -/
theorem flatMap_chunks {α : Type} (l : List α) (size count : Nat) :
    ((List.range count).flatMap fun i => (l.drop (i * size)).take size) =
      l.take (count * size) := by
  induction count with
  | zero => simp
  | succ n ih => simp [List.range_succ, ih, Nat.succ_mul, List.take_add]

/-- The pages, one after the other, are the rows. -/
theorem flatMap_pageRows {v : View} (room : 1 ≤ v.pageSize) :
    ((List.range' 1 v.totalPages).flatMap fun p => (v.goTo p).pageRows) = v.filtered := by
  have chunk : ∀ i ∈ List.range v.totalPages, (v.goTo (1 + i)).pageRows =
      (v.filtered.drop (i * v.pageSize)).take v.pageSize := fun i mem => by
    have lt := List.mem_range.mp mem
    rw [pageRows, startIndex_goTo (by omega) (by omega), Nat.add_sub_cancel_left, filtered_goTo,
      pageSize_goTo]
  rw [List.range'_eq_map_range, List.flatMap_map, List.flatMap_def, List.map_congr_left chunk,
    ← List.flatMap_def, flatMap_chunks]
  exact List.take_of_length_le (length_le_totalPages_mul room)

/-- With the room of the page itself, the full pages are as many as its number. -/
theorem startIndex_add_pageSize {v : View} {p : Nat} (one : 1 ≤ p) (le : p ≤ v.totalPages) :
    (v.goTo p).startIndex + v.pageSize = p * v.pageSize := by
  rw [startIndex_goTo one le, ← Nat.succ_mul, Nat.succ_eq_add_one, Nat.sub_add_cancel one]

/-- A page that exists begins within the rows. -/
theorem startIndex_lt {v : View} {p : Nat} (room : 1 ≤ v.pageSize) (one : 1 ≤ p)
    (le : p ≤ v.totalPages) : (v.goTo p).startIndex < v.filtered.length := by
  rw [startIndex_goTo one le]
  exact (lt_totalPages_iff room (p - 1)).mp (by omega)

/-- A page that exists has rows. -/
theorem pageRows_ne_nil {v : View} {p : Nat} (room : 1 ≤ v.pageSize) (one : 1 ≤ p)
    (le : p ≤ v.totalPages) : (v.goTo p).pageRows ≠ [] := by
  have start := startIndex_lt room one le
  rw [← List.length_pos_iff, length_pageRows, pageSize_goTo, filtered_goTo]
  omega

/-- The rows up to the end of a page: full pages, or all there are. -/
theorem startIndex_add_length_pageRows {v : View} {p : Nat} (room : 1 ≤ v.pageSize)
    (one : 1 ≤ p) (le : p ≤ v.totalPages) :
    (v.goTo p).startIndex + (v.goTo p).pageRows.length =
      min (p * v.pageSize) v.filtered.length := by
  have start := startIndex_lt room one le
  rw [length_pageRows, ← startIndex_add_pageSize one le, filtered_goTo, pageSize_goTo]
  omega

/-- A page with another behind it is full. -/
theorem length_pageRows_of_lt {v : View} {p : Nat} (room : 1 ≤ v.pageSize) (one : 1 ≤ p)
    (lt : p < v.totalPages) : (v.goTo p).pageRows.length = v.pageSize := by
  have beyond := (lt_totalPages_iff room p).mp lt
  rw [← startIndex_add_pageSize one (Nat.le_of_lt lt)] at beyond
  rw [length_pageRows, filtered_goTo, pageSize_goTo]
  omega

/-- The range shown on a page that exists. -/
theorem showingRange_goTo {v : View} {p : Nat} (room : 1 ≤ v.pageSize) (one : 1 ≤ p)
    (le : p ≤ v.totalPages) :
    (v.goTo p).showingRange = some ((p - 1) * v.pageSize + 1,
      min (p * v.pageSize) v.filtered.length, v.filtered.length) := by
  have rows := pageRows_ne_nil room one le
  rw [showingRange, if_neg (by simpa using rows), startIndex_add_length_pageRows room one le,
    startIndex_goTo one le, filtered_goTo]

/-- No range is shown, on any page, exactly when there are no rows. -/
theorem showingRange_goTo_eq_none_iff {v : View} (room : 1 ≤ v.pageSize) (p : Nat) :
    (v.goTo p).showingRange = none ↔ v.filtered = [] := by
  rcases Nat.eq_zero_or_pos v.totalPages with zero | pos
  · have nothing := (totalPages_eq_zero_iff room).mp zero
    simp [showingRange, pageRows, nothing]
  · -- the nearest page exists, so it shows a range
    have nearest : v.goTo p = v.goTo (max (min p v.totalPages) 1) :=
      goTo_congr (by simp only [page_goTo]; omega)
    have found := (totalPages_eq_zero_iff room).not.mp (Nat.ne_of_gt pos)
    rw [nearest, showingRange_goTo room (by omega) (by omega)]
    simp [found]

/-- So many pages on from the first, and no further than the last. -/
theorem next_iterate {v : View} (first : v.page = 1) (k : Nat) :
    next^[k] v = v.goTo (min (k + 1) v.totalPages) := by
  induction k with
  | zero =>
    have stay := goTo_page (v := v) (by omega) (by omega)
    rw [first] at stay
    exact stay.symm.trans (goTo_congr (by simp only [page_goTo]; omega))
  | succ n ih =>
    rw [Function.iterate_succ_apply', ih, next, goTo_goTo]
    exact goTo_congr (by simp only [page_goTo]; omega)

/-- So many pages back from the last, and no further than the first. -/
theorem previous_iterate (v : View) (k : Nat) :
    previous^[k] (v.goTo v.totalPages) = v.goTo (max (v.totalPages - k) 1) := by
  induction k with
  | zero => exact goTo_congr (by simp only [page_goTo]; omega)
  | succ n ih =>
    rw [Function.iterate_succ_apply', ih, previous, goTo_goTo]
    exact goTo_congr (by simp only [page_goTo]; omega)

/-- The pages share out the rows found. Joined in order they are the rows that the term selects;
each has rows and all but the last are full; a page says which rows it shows, and no page does so
exactly when nothing was found. Going on visits the pages in order up to the last and stays there;
going back visits them down to the first and stays there. -/
theorem pages_partition_selected (table : Option ResultTable) (size : Nat) (term : String) :
    let v := (ofTable table size).search term
    let rows := select table term
    let room := max size 1
    let last := v.totalPages
    ((List.range' 1 last).flatMap fun p => (v.goTo p).pageRows) = rows ∧
    (∀ p, 1 ≤ p → p ≤ last →
      (v.goTo p).page = p ∧
      (v.goTo p).pageRows ≠ [] ∧
      (p < last → (v.goTo p).pageRows.length = room) ∧
      (v.goTo p).showingRange =
        some ((p - 1) * room + 1, min (p * room) rows.length, rows.length)) ∧
    (∀ p, (v.goTo p).showingRange = none ↔ rows.length = 0) ∧
    (∀ k, next^[k] v = v.goTo (min (k + 1) last)) ∧
    (∀ k, previous^[k] (v.goTo last) = v.goTo (max (last - k) 1)) := by
  intro v rows room last
  have hroom : 1 ≤ v.pageSize := one_le_pageSize_ofTable table size
  refine ⟨flatMap_pageRows hroom, fun p one le => ⟨page_goTo_of_le one le,
    pageRows_ne_nil hroom one le, length_pageRows_of_lt hroom one,
    showingRange_goTo hroom one le⟩, fun p => ?_, next_iterate rfl, previous_iterate v⟩
  rw [List.length_eq_zero_iff]
  exact showingRange_goTo_eq_none_iff hroom p

end View

end CsvCleaning
