import CsvCleaning.SortedMap
import Mathlib.Data.List.Basic
import Mathlib.Data.List.Perm.Basic

/-!
# The entries of a map

A map of entries under different keys has just these entries, in order of the keys. So the value of an
entry is found under its key, and a map is built again from its own entries.
-/

namespace CsvCleaning

/-- Under a new key an entry is added to the others. -/
theorem insertSorted_perm {α : Type} {k : String} {v : α} {entries : List (String × α)}
    (h : k ∉ entries.map (·.1)) : (insertSorted k v entries).Perm ((k, v) :: entries) := by
  induction entries with
  | nil => exact List.Perm.refl _
  | cons e rest ih =>
    obtain ⟨hk, hrest⟩ := not_or.mp (mt List.mem_cons.mpr h)
    rw [insertSorted, if_neg hk]
    split
    · exact List.Perm.refl _
    · exact ((ih hrest).cons e).trans (List.Perm.swap _ _ _)

/-- Insertion adds no entry but its own. -/
theorem eq_or_mem_of_mem_insertSorted {α : Type} {k : String} {v : α} {entries : List (String × α)}
    {e : String × α} (h : e ∈ insertSorted k v entries) : e = (k, v) ∨ e ∈ entries := by
  induction entries with
  | nil => exact .inl (List.mem_singleton.mp h)
  | cons e' rest ih =>
    rw [insertSorted] at h
    split_ifs at h
    · exact List.mem_cons.mp h
    · exact (List.mem_cons.mp h).imp_right (List.mem_cons_of_mem e')
    · rcases List.mem_cons.mp h with rfl | h
      · exact .inr List.mem_cons_self
      · exact (ih h).imp_right (List.mem_cons_of_mem e')

namespace SortedMap

variable {α : Type} {entries : List (String × α)}

/-- Entries under new keys are added to those of a map. -/
theorem foldl_insert_perm {m : SortedMap α} (h : (m.entries ++ entries).map (·.1) |>.Nodup) :
    (entries.foldl (fun m e => m.insert e.1 e.2) m).entries.Perm (m.entries ++ entries) := by
  induction entries generalizing m with
  | nil => rw [List.append_nil]; exact List.Perm.refl _
  | cons e rest ih =>
    have hmiddle : (m.entries ++ e :: rest).Perm (e :: m.entries ++ rest) := List.perm_middle
    have hfresh : e.1 ∉ m.entries.map (·.1) := by
      have hnodup := (hmiddle.map (·.1)).nodup_iff.mp h
      rw [List.cons_append, List.map_cons, List.nodup_cons, List.map_append, List.mem_append] at hnodup
      exact fun hmem => hnodup.1 (.inl hmem)
    have hinsert : (m.insert e.1 e.2).entries.Perm (e :: m.entries) := insertSorted_perm hfresh
    have hall := (hinsert.append_right rest).trans hmiddle.symm
    exact (ih ((hall.map (·.1)).nodup_iff.mpr h)).trans hall

/-- A map of entries under different keys has just these entries. -/
theorem entries_ofList_perm (h : (entries.map (·.1)).Nodup) :
    (ofList entries).entries.Perm entries :=
  foldl_insert_perm (m := empty) h

/-- A value is found under a key exactly if the two are an entry. -/
theorem get?_ofList_eq_some_iff (h : (entries.map (·.1)).Nodup) {k : String} {v : α} :
    (ofList entries).get? k = some v ↔ (k, v) ∈ entries :=
  get?_eq_some_iff.trans (entries_ofList_perm h).mem_iff

/-- The keys of a map differ. -/
theorem nodup_keys (m : SortedMap α) : (m.entries.map (·.1)).Nodup :=
  m.keys_sorted.imp fun h => String.ne_of_lt h

/-- A map is built again from its entries. -/
theorem ofList_entries (m : SortedMap α) : ofList m.entries = m := by
  refine ext_entries ((entries_ofList_perm m.nodup_keys).eq_of_pairwise ?_ (ofList _).sorted m.sorted)
  exact fun a b _ _ hab hba => absurd hba (String.lt_asymm hab)

end SortedMap

end CsvCleaning
