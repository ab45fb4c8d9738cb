/-!
# Maps with keys in order

A finite map from texts, kept as its entries in strictly increasing order of the keys, so that
equal maps have equal entries. The order of texts is by code point, which is the order of their
UTF-8 bytes.
-/

namespace CsvCleaning

/-- Put a value under a key into entries ordered by key, in place of the key's earlier value. -/
def insertSorted {α : Type} (k : String) (v : α) : List (String × α) → List (String × α)
  | [] => [(k, v)]
  | (k', v') :: rest =>
    if k < k' then (k, v) :: (k', v') :: rest
    else if k = k' then (k, v) :: rest
    else (k', v') :: insertSorted k v rest

/-- Insertion adds no key but its own. -/
theorem key_of_mem_insertSorted {α : Type} {k : String} {v : α} {entries : List (String × α)}
    {e : String × α} (h : e ∈ insertSorted k v entries) : e.1 = k ∨ e ∈ entries := by
  induction entries with
  | nil =>
    simp only [insertSorted, List.mem_singleton] at h
    exact .inl (by simp [h])
  | cons e' rest ih =>
    obtain ⟨k', v'⟩ := e'
    simp only [insertSorted] at h
    split at h
    · rcases List.mem_cons.1 h with rfl | h
      · exact .inl rfl
      · exact .inr h
    · split at h
      · rcases List.mem_cons.1 h with rfl | h
        · exact .inl rfl
        · exact .inr (List.mem_cons_of_mem _ h)
      · rcases List.mem_cons.1 h with rfl | h
        · exact .inr List.mem_cons_self
        · exact (ih h).imp_right (List.mem_cons_of_mem _)

/-- Two texts neither of which comes first are the same. -/
theorem eq_of_not_lt {a b : String} (hab : ¬ a < b) (hba : ¬ b < a) : a = b :=
  String.le_antisymm (String.not_lt.1 hba) (String.not_lt.1 hab)

/-- Insertion keeps the keys strictly increasing. -/
theorem pairwise_insertSorted {α : Type} {k : String} {v : α} {entries : List (String × α)}
    (h : entries.Pairwise fun a b => a.1 < b.1) :
    (insertSorted k v entries).Pairwise fun a b => a.1 < b.1 := by
  induction entries with
  | nil => simp [insertSorted]
  | cons e rest ih =>
    obtain ⟨k', v'⟩ := e
    have hrest := List.pairwise_cons.1 h
    simp only [insertSorted]
    split
    · rename_i hlt
      refine List.pairwise_cons.2 ⟨?_, h⟩
      intro e he
      rcases List.mem_cons.1 he with rfl | he
      · exact hlt
      · exact String.lt_trans hlt (hrest.1 e he)
    · rename_i hnlt
      split
      · rename_i heq
        exact List.pairwise_cons.2 ⟨fun e he => heq ▸ hrest.1 e he, hrest.2⟩
      · rename_i hne
        refine List.pairwise_cons.2 ⟨?_, ih hrest.2⟩
        intro e he
        rcases key_of_mem_insertSorted he with hk | he
        · rw [hk]
          exact Classical.byContradiction fun hnot => hne (eq_of_not_lt hnlt hnot)
        · exact hrest.1 e he

/-- A finite map from texts, by its entries in order of the keys. -/
structure SortedMap (α : Type) where
  entries : List (String × α)
  sorted : entries.Pairwise fun a b => a.1 < b.1
deriving DecidableEq

namespace SortedMap

variable {α β : Type}

/-- The map without entries. -/
def empty : SortedMap α :=
  ⟨[], .nil⟩

instance : Inhabited (SortedMap α) :=
  ⟨empty⟩

/-- Put a value under a key. -/
def insert (m : SortedMap α) (k : String) (v : α) : SortedMap α :=
  ⟨insertSorted k v m.entries, pairwise_insertSorted m.sorted⟩

/-- The map of a list of entries, of which the last under a key counts. -/
def ofList (entries : List (String × α)) : SortedMap α :=
  entries.foldl (fun m e => m.insert e.1 e.2) empty

/-- The value under a key. -/
def get? (m : SortedMap α) (k : String) : Option α :=
  (m.entries.find? (·.1 == k)).map (·.2)

/-- The keys in order. -/
def keys (m : SortedMap α) : List String :=
  m.entries.map (·.1)

/-- The values in order of their keys. -/
def values (m : SortedMap α) : List α :=
  m.entries.map (·.2)

/-- The keys are strictly increasing. -/
theorem keys_sorted (m : SortedMap α) : m.keys.Pairwise (· < ·) := by
  simpa [keys, List.pairwise_map] using m.sorted

/-- Two maps with the same entries are the same. -/
theorem ext_entries {m n : SortedMap α} (h : m.entries = n.entries) : m = n := by
  cases m
  cases n
  simp_all

/-- A value is found under a key exactly if the two are an entry. -/
theorem get?_eq_some_iff {m : SortedMap α} {k : String} {v : α} :
    m.get? k = some v ↔ (k, v) ∈ m.entries := by
  obtain ⟨entries, sorted⟩ := m
  change (entries.find? (·.1 == k)).map (·.2) = some v ↔ (k, v) ∈ entries
  induction entries with
  | nil => simp
  | cons e rest ih =>
    obtain ⟨hless, hrest⟩ := List.pairwise_cons.1 sorted
    by_cases hk : e.1 = k
    · have hlater : (k, v) ∉ rest := fun hmem => String.ne_of_lt (hless _ hmem) hk
      rw [List.find?_cons_of_pos (by simpa using hk), List.mem_cons, or_iff_left hlater]
      simp [Prod.ext_iff, hk, eq_comm]
    · have hne : (k, v) ≠ e := fun heq => hk (heq ▸ rfl)
      rw [List.find?_cons_of_neg (by simpa using hk), ih hrest, List.mem_cons, or_iff_right hne]

/-- The key that is found first is the least of those that are looked for. -/
theorem le_of_find?_keys {m : SortedMap α} {p : String → Bool} {k k' : String}
    (h : m.keys.find? p = some k) (hk' : k' ∈ m.keys) (hp' : p k' = true) : k ≤ k' := by
  obtain ⟨-, before, after, hkeys, hbefore⟩ := List.find?_eq_some_iff_append.1 h
  have hsorted := m.keys_sorted
  rw [hkeys] at hk' hsorted
  rcases List.mem_append.1 hk' with hk' | hk'
  · exact absurd hp' (by simpa using hbefore k' hk')
  · rcases List.mem_cons.1 hk' with rfl | hk'
    · exact String.le_refl _
    · have hlater := (List.pairwise_cons.1 (List.pairwise_append.1 hsorted).2.1).1 k' hk'
      exact Std.le_of_lt hlater

/-- The empty map has no values. -/
theorem get?_empty (k : String) : (empty : SortedMap α).get? k = none := rfl

end SortedMap

end CsvCleaning
