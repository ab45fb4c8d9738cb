import CsvCleaning.Proofs.Table.Browsing

/-!
# Pages for direct navigation

A view offers a run of at most five pages that has the current one in it. Where the run begins is
decided by three cases, and it depends on nothing but the current page and the number of pages: with
the current page in range, every case keeps the run within the pages there are, and the current page
is off its middle only where the pages end.
-/

namespace CsvCleaning.View

/-- The pages offered from one of so many pages: consecutive pages that exist, five of them or as many
as there are, with the current one in the middle as far as the pages reach to both sides. Where they do
not, all pages are offered, or the five up to the nearer end. -/
structure Offered (page total : Nat) (pages : List Nat) : Prop where
  consecutive : ∃ first, pages = List.range' first (min 5 total)
  length : pages.length = min 5 total
  exist : ∀ p ∈ pages, 1 ≤ p ∧ p ≤ total
  current : 0 < total → page ∈ pages
  middle : 5 ≤ total → 1 + 2 ≤ page → page + 2 ≤ total → pages[pages.length / 2]? = some page
  nearEnd : ¬ (5 ≤ total ∧ 1 + 2 ≤ page ∧ page + 2 ≤ total) →
    (total ≤ 5 ∧ pages = List.range' 1 total) ∨
    (page - 1 < total - page ∧ pages.head? = some 1) ∨
    (total - page < page - 1 ∧ pages.getLast? = some total)

section Window

variable {v : View}

/-- The pages offered begin with the first, with the fifth from the end, or two before the current
one. -/
theorem windowStart_cases (v : View) :
    ((v.totalPages ≤ 5 ∨ v.page ≤ 3) ∧ v.windowStart = 1) ∨
    (5 < v.totalPages ∧ 3 < v.page ∧ v.totalPages ≤ v.page + 2 ∧
      v.windowStart + 4 = v.totalPages) ∨
    (5 < v.totalPages ∧ 3 < v.page ∧ v.page + 2 < v.totalPages ∧ v.windowStart + 2 = v.page) := by
  unfold windowStart windowSize
  split
  · exact .inl ⟨‹_›, rfl⟩
  · split <;> omega

/-- The window runs from its start over five pages or as many as there are. -/
theorem pageWindow_eq (v : View) :
    v.pageWindow = List.range' v.windowStart (min 5 v.totalPages) := by
  rw [pageWindow, Nat.min_comm, windowSize]

/-- The window ends with a page that exists. -/
theorem windowStart_add_le (v : View) : v.windowStart + min 5 v.totalPages ≤ v.totalPages + 1 := by
  rcases windowStart_cases v with h | h | h <;> omega

/-- The window begins with a page that exists, if there are any. -/
theorem one_le_windowStart (v : View) : 1 ≤ v.windowStart := by
  rcases windowStart_cases v with h | h | h <;> omega

/-- The current page is in the window. -/
theorem page_mem_pageWindow (first : 1 ≤ v.page) (last : v.page ≤ v.totalPages) :
    v.page ∈ v.pageWindow := by
  rw [pageWindow_eq, List.mem_range'_1]
  rcases windowStart_cases v with h | h | h <;> omega

/-- With two pages on both sides, the current page is two after the start of the window. -/
theorem windowStart_add_two (few : 5 ≤ v.totalPages) (before : 3 ≤ v.page)
    (behind : v.page + 2 ≤ v.totalPages) : v.windowStart + 2 = v.page := by
  rcases windowStart_cases v with h | h | h <;> omega

/-- A view in range offers its pages so. -/
theorem offered_pageWindow (first : 1 ≤ v.page) (last : v.page ≤ max 1 v.totalPages) :
    Offered v.page v.totalPages v.pageWindow where
  consecutive := ⟨v.windowStart, pageWindow_eq v⟩
  length := by rw [pageWindow_eq, List.length_range']
  exist p hp := by
    rw [pageWindow_eq, List.mem_range'_1] at hp
    have start := one_le_windowStart v
    have stop := windowStart_add_le v
    omega
  current used := page_mem_pageWindow first (by omega)
  middle few before behind := by
    have five : min 5 v.totalPages = 5 := by omega
    rw [pageWindow_eq, List.length_range', five, List.getElem?_range' (by decide)]
    have start := windowStart_add_two few before behind
    exact congrArg some (by omega)
  nearEnd outer := by
    have start := windowStart_cases v
    rw [pageWindow_eq, List.head?_range', List.getLast?_range']
    by_cases few : v.totalPages ≤ 5
    · have one : v.windowStart = 1 := by omega
      exact .inl ⟨few, by rw [one, Nat.min_eq_right few]⟩
    · have five : min 5 v.totalPages = 5 := by omega
      rw [five, if_neg (by decide), if_neg (by decide), Option.some.injEq, Option.some.injEq]
      rcases Nat.lt_or_ge v.page 3 with near | far
      · exact .inr (.inl ⟨by omega, by omega⟩)
      · exact .inr (.inr ⟨by omega, by omega⟩)

end Window

/-- Every view offers the pages around its own. Whatever rows, page size, searches and page changes
led to it, the pages for direct navigation are consecutive, exist, have the current one among them, and
have it in their middle or else reach the nearer end. -/
theorem page_window_surrounds_page (table : Option ResultTable) (size : Nat)
    (actions : List Action) :
    let v := (ofTable table size).after actions
    Offered v.page v.totalPages v.pageWindow := by
  intro v
  obtain ⟨first, last⟩ : 1 ≤ v.page ∧ v.page ≤ max 1 v.totalPages :=
    page_after_mem table size actions
  exact offered_pageWindow first last

end CsvCleaning.View
