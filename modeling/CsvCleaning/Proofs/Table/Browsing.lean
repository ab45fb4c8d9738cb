import CsvCleaning.Proofs.Table.Paging

/-!
# Browsing a table

A view under any sequence of searches and page changes. Each of them leads to the rows of the last
term at a page that exists, so nothing else of the sequence is left in the view; and because the
rows before such a page are within the rows found, the page arithmetic stays within words of 64
bits whatever the page size.
-/

namespace CsvCleaning

/-! ### Words -/

namespace Word

/-- The number of values of a word. -/
def count : Nat :=
  Nat.pow 2 64

/-- The sum of two words, if it is one. -/
def add? (a b : Nat) : Option Nat :=
  if a + b < count then some (a + b) else none

/-- The difference of two words, if it is one. -/
def sub? (a b : Nat) : Option Nat :=
  if b ≤ a then some (a - b) else none

/-- The product of two words, if it is one. -/
def mul? (a b : Nat) : Option Nat :=
  if a * b < count then some (a * b) else none

/-- The elements of a list from one position up to another, if these are in order and within it. -/
def slice? {α : Type} (l : List α) (start stop : Nat) : Option (List α) :=
  if start ≤ stop ∧ stop ≤ l.length then some ((l.take stop).drop start) else none

/-- A sum that fits is the sum. -/
theorem add?_eq {a b : Nat} (h : a + b < count) : add? a b = some (a + b) :=
  if_pos h

/-- A difference that fits is the difference. -/
theorem sub?_eq {a b : Nat} (h : b ≤ a) : sub? a b = some (a - b) :=
  if_pos h

/-- A product that fits is the product. -/
theorem mul?_eq {a b : Nat} (h : a * b < count) : mul? a b = some (a * b) :=
  if_pos h

/-- A slice within a list is that part of it. -/
theorem slice?_eq {α : Type} {l : List α} {start stop : Nat} (order : start ≤ stop)
    (within : stop ≤ l.length) : slice? l start stop = some ((l.take stop).drop start) :=
  if_pos ⟨order, within⟩

end Word

namespace View

/-! ### The page arithmetic in words -/

/-- The number of rows before this page, computed in words. -/
def startIndex? (v : View) : Option Nat := do
  let before ← Word.sub? v.page 1
  Word.mul? before v.pageSize

/-- The rows of this page, cut out by positions computed in words. -/
def pageRows? (v : View) : Option (List Row) := do
  let index ← v.startIndex?
  let start := min index v.filtered.length
  let stop ← Word.add? start v.pageSize
  Word.slice? v.filtered start (min stop v.filtered.length)

/-- The range shown, computed in words. -/
def showingRange? (v : View) : Option (Option (Nat × Nat × Nat)) := do
  let rows ← v.pageRows?
  if rows.isEmpty then
    return none
  let index ← v.startIndex?
  let first ← Word.add? index 1
  let past ← Word.add? first rows.length
  let last ← Word.sub? past 1
  return some (first, last, v.filtered.length)

/-- The step to the page after this one, its number computed in words. -/
def next? (v : View) : Option View := do
  let page ← Word.add? v.page 1
  return v.goTo page

/-- The first page offered for direct navigation, computed in words. -/
def windowStart? (v : View) : Option Nat :=
  if v.totalPages ≤ windowSize ∨ v.page ≤ 3 then
    some 1
  else do
    let ahead ← Word.add? v.page 2
    if v.totalPages ≤ ahead then
      let past ← Word.add? v.totalPages 1
      Word.sub? past windowSize
    else
      Word.sub? v.page 2

/-- The pages offered for direct navigation, computed in words. -/
def pageWindow? (v : View) : Option (List Nat) := do
  let first ← v.windowStart?
  let past ← Word.add? first (min v.totalPages windowSize)
  return List.range' first (past - first)

/-- In words, everything that depends on the page comes out as it does in numbers. -/
structure FitsWords (v : View) : Prop where
  startIndex : v.startIndex? = some v.startIndex
  pageRows : v.pageRows? = some v.pageRows
  showingRange : v.showingRange? = some v.showingRange
  next : v.next? = some v.next
  pageWindow : v.pageWindow? = some v.pageWindow

/-- A view of sizes that words allow, at a page that exists. -/
structure Bounded (v : View) : Prop where
  room : 1 ≤ v.pageSize
  size : v.pageSize < Word.count
  rows : v.filtered.length < Nat.pow 2 63
  first : 1 ≤ v.page
  last : v.page ≤ max 1 v.totalPages

namespace Bounded

variable {v : View}

/-- Twice the rows are a word, and so are a few more than the rows. -/
theorem rows_fit (h : v.Bounded) :
    2 * v.filtered.length < Word.count ∧ v.filtered.length + 8 < Word.count := by
  have rows := h.rows
  have half : Word.count = 2 * Nat.pow 2 63 := rfl
  have few : 8 ≤ Nat.pow 2 63 := by decide
  omega

/-- The page is the first or one of those there are. -/
theorem page_eq_one_or_le (h : v.Bounded) : v.page = 1 ∨ v.page ≤ v.totalPages := by
  have last := h.last
  omega

/-- A page number is at most one above the number of rows. -/
theorem page_le (h : v.Bounded) : v.page ≤ v.filtered.length + 1 := by
  have pages := totalPages_le_length h.room
  have last := h.last
  omega

/-- The rows before the page are within the rows. -/
theorem startIndex_le (h : v.Bounded) : v.startIndex ≤ v.filtered.length := by
  rcases h.page_eq_one_or_le with first | used
  · simp [startIndex, first]
  · have earlier : v.page - 1 < v.totalPages := by
      have first := h.first
      omega
    exact Nat.le_of_lt ((lt_totalPages_iff h.room (v.page - 1)).mp earlier)

/-- The position behind the page is a word: on the first page it is the page size, and behind that
the page size is below the number of rows. -/
theorem startIndex_add_pageSize_lt (h : v.Bounded) : v.startIndex + v.pageSize < Word.count := by
  have start := h.startIndex_le
  have words := h.rows_fit
  rcases Nat.eq_or_lt_of_le h.first with first | later
  · have size := h.size
    simpa [startIndex, ← first]
  · have within : v.pageSize ≤ v.startIndex := Nat.le_mul_of_pos_left _ (by omega)
    omega

/-- The page's position fits. -/
theorem startIndex?_eq (h : v.Bounded) : v.startIndex? = some v.startIndex := by
  have start := h.startIndex_le
  have words := h.rows_fit
  have product : (v.page - 1) * v.pageSize < Word.count := by
    change v.startIndex < _
    omega
  simp only [startIndex?, Word.sub?_eq h.first, Option.bind_eq_bind, Option.bind_some,
    Word.mul?_eq product, startIndex]

/-- The page's rows are within the rows. -/
theorem pageRows?_eq (h : v.Bounded) : v.pageRows? = some v.pageRows := by
  have start := h.startIndex_le
  have sum := h.startIndex_add_pageSize_lt
  simp only [pageRows?, h.startIndex?_eq, Option.bind_eq_bind, Option.bind_some,
    Nat.min_eq_left start, Word.add?_eq sum]
  rw [Word.slice?_eq (by omega) (Nat.min_le_right ..), ← List.take_take, List.take_length,
    List.drop_take, Nat.add_sub_cancel_left, pageRows]

/-- The range shown fits. -/
theorem showingRange?_eq (h : v.Bounded) : v.showingRange? = some v.showingRange := by
  have start := h.startIndex_le
  have words := h.rows_fit
  have length := length_pageRows v
  simp only [showingRange?, h.pageRows?_eq, h.startIndex?_eq, Option.bind_eq_bind,
    Option.bind_some, showingRange]
  split
  · rfl
  · rw [Word.add?_eq (by omega), Option.bind_some, Word.add?_eq (by omega), Option.bind_some,
      Word.sub?_eq (by omega), Option.bind_some, Nat.add_right_comm, Nat.add_sub_cancel]
    rfl

/-- The number of the next page fits. -/
theorem next?_eq (h : v.Bounded) : v.next? = some v.next := by
  have page := h.page_le
  have words := h.rows_fit
  have sum : v.page + 1 < Word.count := by omega
  simp only [next?, Word.add?_eq sum, Option.bind_eq_bind, Option.bind_some, next]
  rfl

/-- The first page offered fits. -/
theorem windowStart?_eq (h : v.Bounded) : v.windowStart? = some v.windowStart := by
  have page := h.page_le
  have pages := totalPages_le_length h.room
  have words := h.rows_fit
  have ahead : v.page + 2 < Word.count := by omega
  have past : v.totalPages + 1 < Word.count := by omega
  simp only [windowStart?, windowStart, Word.add?_eq ahead, Word.add?_eq past,
    Option.bind_eq_bind, Option.bind_some]
  split
  · rfl
  · rename_i inner
    simp only [windowSize, not_or, Nat.not_le] at inner
    split
    · exact Word.sub?_eq (by rw [windowSize]; omega)
    · exact Word.sub?_eq (by omega)

/-- The first page offered is at most one after the last there is. -/
theorem windowStart_le (h : v.Bounded) : v.windowStart ≤ v.totalPages + 1 := by
  have last := h.last
  simp only [windowStart]
  split
  · omega
  · split <;> omega

/-- The pages offered fit. -/
theorem pageWindow?_eq (h : v.Bounded) : v.pageWindow? = some v.pageWindow := by
  have pages := totalPages_le_length h.room
  have start := h.windowStart_le
  have words := h.rows_fit
  have past : v.windowStart + min v.totalPages windowSize < Word.count := by
    have five : windowSize = 5 := rfl
    omega
  simp only [pageWindow?, h.windowStart?_eq, Word.add?_eq past, Option.bind_eq_bind,
    Option.bind_some, Nat.add_sub_cancel_left, pageWindow]
  rfl

/-- A view of such sizes computes in words. -/
theorem fitsWords (h : v.Bounded) : v.FitsWords :=
  ⟨h.startIndex?_eq, h.pageRows?_eq, h.showingRange?_eq, h.next?_eq, h.pageWindow?_eq⟩

end Bounded

/-! ### Sequences of actions -/

/-- What a reader does with a view. -/
inductive Action
  | search (term : String)
  | goTo (page : Nat)
  | next
  | previous
deriving DecidableEq, Repr

/-- The term that an action looks for. -/
def Action.term? : Action → Option String
  | .search term => some term
  | .goTo _ | .next | .previous => none

/-- The view after an action. -/
def act (v : View) : Action → View
  | .search term => v.search term
  | .goTo page => v.goTo page
  | .next => v.next
  | .previous => v.previous

/-- The view after some actions, one after the other. -/
def after (v : View) (actions : List Action) : View :=
  actions.foldl act v

/-- The last term that some actions look for. -/
def lastTerm? (actions : List Action) : Option String :=
  (actions.filterMap Action.term?).getLast?

/-- Browsing never changes the table of a view. -/
theorem table_after (v : View) (actions : List Action) : (v.after actions).table = v.table := by
  induction actions generalizing v with
  | nil => rfl
  | cons a rest ih =>
    refine (ih (v.act a)).trans ?_
    cases a <;> rfl

/-- The last term among actions is that of the first only if the others look for none. -/
theorem getD_lastTerm?_cons (a : Action) (rest : List Action) (term : String) :
    (lastTerm? (a :: rest)).getD term = (lastTerm? rest).getD (a.term?.getD term) := by
  cases a <;> simp [lastTerm?, Action.term?, List.getLast?_cons]

/-- A search leaves nothing of the term and the page before it. -/
@[simp]
theorem search_search (v : View) (term term' : String) :
    (v.search term).search term' = v.search term' := rfl

/-- A search leaves nothing of the page before it. -/
@[simp]
theorem search_goTo (v : View) (page : Nat) (term : String) :
    (v.goTo page).search term = v.search term := rfl

/-- A view that was not searched is one searched for the empty term. -/
theorem search_empty_ofTable (table : Option ResultTable) (size : Nat) :
    (ofTable table size).search "" = ofTable table size := rfl

/-- A search shows the first page. -/
theorem goTo_one_search (v : View) (term : String) :
    (v.search term).goTo 1 = v.search term :=
  goTo_page (v := v.search term) (Nat.le_refl 1) (Nat.le_max_right ..)

/-- To go to the page that is shown changes nothing. -/
theorem goTo_page_goTo (v : View) (page : Nat) : v.goTo (v.goTo page).page = v.goTo page :=
  goTo_congr (by simp only [page_goTo]; omega)

/-- An action leads from a page of a search to a page of the search last made. -/
theorem act_search_goTo (v : View) (term : String) (page : Nat) (a : Action) :
    ∃ page', ((v.search term).goTo page).act a = (v.search (a.term?.getD term)).goTo page' := by
  cases a with
  | search term' =>
    refine ⟨1, ?_⟩
    rw [act, search_goTo, search_search]
    exact (goTo_one_search v term').symm
  | goTo page' => exact ⟨page', rfl⟩
  | next => exact ⟨_, rfl⟩
  | previous => exact ⟨_, rfl⟩

/-- So do any number of actions. -/
theorem after_search_goTo (v : View) (actions : List Action) (term : String) (page : Nat) :
    ∃ page', ((v.search term).goTo page).after actions =
      (v.search ((lastTerm? actions).getD term)).goTo page' := by
  induction actions generalizing term page with
  | nil => exact ⟨page, rfl⟩
  | cons a rest ih =>
    obtain ⟨next, step⟩ := act_search_goTo v term page a
    obtain ⟨last, run⟩ := ih (a.term?.getD term) next
    refine ⟨last, ?_⟩
    rw [getD_lastTerm?_cons, ← run, ← step]
    rfl

/-- A browsed view is a page of the search last made. -/
theorem after_ofTable (table : Option ResultTable) (size : Nat) (actions : List Action) :
    ∃ page, (ofTable table size).after actions =
      ((ofTable table size).search ((lastTerm? actions).getD "")).goTo page := by
  have start := goTo_one_search (ofTable table size) ""
  rw [search_empty_ofTable] at start
  have run := after_search_goTo (ofTable table size) actions "" 1
  rwa [search_empty_ofTable, start] at run

/-- Whatever is done with a view, a page has room for a row. -/
theorem one_le_pageSize_after (table : Option ResultTable) (size : Nat) (actions : List Action) :
    1 ≤ ((ofTable table size).after actions).pageSize := by
  obtain ⟨page, reached⟩ := after_ofTable table size actions
  rw [reached]
  exact one_le_pageSize_ofTable table size

/-- Whatever is done with a view, it is at a page that exists, or at the first. -/
theorem page_after_mem (table : Option ResultTable) (size : Nat) (actions : List Action) :
    let v := (ofTable table size).after actions
    1 ≤ v.page ∧ v.page ≤ max 1 v.totalPages := by
  intro v
  obtain ⟨page, reached⟩ : ∃ page, v = _ := after_ofTable table size actions
  rw [reached, totalPages_goTo, page_goTo]
  omega

/-- A term selects no more rows than a table has. -/
theorem length_select_lt (table : Option ResultTable) (term : String) {bound : Nat}
    (rows : ∀ t ∈ table, t.rows.length < bound) (pos : 0 < bound) :
    (select table term).length < bound := by
  cases table with
  | none => exact pos
  | some t => exact Nat.lt_of_le_of_lt (List.length_filter_le ..) (rows t rfl)

/-- A page of a search is of the sizes that words allow, if the table and the page size are. -/
theorem bounded_search_goTo {table : Option ResultTable} {size : Nat} (term : String)
    (page : Nat) (rows : ∀ t ∈ table, t.rows.length < Nat.pow 2 63) (words : size < Word.count) :
    (((ofTable table size).search term).goTo page).Bounded where
  room := one_le_pageSize_ofTable table size
  size := Nat.max_lt.mpr ⟨words, by decide⟩
  rows := length_select_lt table term rows (by decide)
  first := one_le_page_goTo ..
  last := by
    rw [page_goTo, totalPages_goTo]
    omega

/-- A view stays in range and keeps nothing of the past. Whatever is done with it, it is at a
page that exists or at the first, its page arithmetic stays within words and the rows it cuts out
are within those found, and it is the view on which only the last search was made and the page then
chosen. -/
theorem browsing_stays_in_range (table : Option ResultTable) (size : Nat) (actions : List Action)
    (rows : ∀ t ∈ table, t.rows.length < Nat.pow 2 63) (words : size < Word.count) :
    let fresh := ofTable table size
    let v := fresh.after actions
    1 ≤ v.page ∧ v.page ≤ max 1 v.totalPages ∧
    v.FitsWords ∧
    v = ((lastTerm? actions).elim fresh fresh.search).goTo v.page := by
  intro fresh v
  obtain ⟨page, reached⟩ : ∃ page, v = _ := after_ofTable table size actions
  have bounded : v.Bounded := reached ▸ bounded_search_goTo _ page rows words
  have searched : (lastTerm? actions).elim fresh fresh.search =
      fresh.search ((lastTerm? actions).getD "") := by
    cases lastTerm? actions with
    | none => exact (search_empty_ofTable table size).symm
    | some term => rfl
  refine ⟨bounded.first, bounded.last, bounded.fitsWords, ?_⟩
  rw [searched, reached, goTo_page_goTo]

/-- A table of three numbers. -/
def threeRows : ResultTable :=
  let row (n : Int) : Row := SortedMap.empty.insert "id" (.number (.int n))
  ⟨"a1", [row 1, row 2, row 3], ["id"], 3⟩

/-- The largest page size and page number do no harm. -/
theorem browsing_three_rows_stays_in_range :
    let fresh := ofTable (some threeRows) (Word.count - 1)
    let v := fresh.after [.next, .search "2", .goTo (Word.count - 1), .previous, .next]
    1 ≤ v.page ∧ v.page ≤ max 1 v.totalPages ∧ v.FitsWords ∧
      v = (fresh.search "2").goTo v.page :=
  browsing_stays_in_range (some threeRows) (Word.count - 1)
    [.next, .search "2", .goTo (Word.count - 1), .previous, .next]
    (fun t mem => by cases mem; decide) (by decide)

end View

end CsvCleaning
