import Mathlib.Algebra.Ring.Nat

/-!
# Sequences put together with something between them

What stands before a part are the parts before it, each followed by what is put between, and what
stands behind it are those behind it, each led by the same. So lengths, places and counts are read off
the parts.
-/

namespace CsvCleaning.Text

variable {α : Type} (between : List α)

/-- Behind the first part, every part is led by what is put between. -/
theorem intercalate_cons (part : List α) (rest : List (List α)) :
    between.intercalate (part :: rest) = part ++ rest.flatMap (between ++ ·) := by
  induction rest generalizing part with
  | nil => simp
  | cons next more ih =>
    rw [List.intercalate_cons_cons, ih, List.flatMap_cons, List.append_assoc, List.append_assoc]

/-- Before a part, every part is followed by what is put between. -/
theorem intercalate_append_cons (before : List (List α)) (part : List α) (rest : List (List α)) :
    between.intercalate (before ++ part :: rest) =
      before.flatMap (· ++ between) ++ (part ++ rest.flatMap (between ++ ·)) := by
  induction before with
  | nil => exact intercalate_cons between part rest
  | cons first before ih =>
    rw [List.cons_append, List.intercalate_cons_of_ne_nil (by simp), ih, List.flatMap_cons,
      List.append_assoc, List.append_assoc, List.append_assoc]

/-- The length of parts that are each followed by the same. -/
theorem length_flatMap_append (parts : List (List α)) :
    (parts.flatMap (· ++ between)).length =
      (parts.map List.length).sum + between.length * parts.length := by
  induction parts with
  | nil => rfl
  | cons part rest ih =>
    rw [List.flatMap_cons, List.length_append, List.length_append, ih, List.map_cons, List.sum_cons,
      List.length_cons, Nat.mul_succ]
    omega

/-- The length of parts that are each led by the same. -/
theorem length_flatMap_append_left (parts : List (List α)) :
    (parts.flatMap (between ++ ·)).length =
      (parts.map List.length).sum + between.length * parts.length := by
  rw [← length_flatMap_append]
  simp only [List.length_flatMap, List.length_append, Nat.add_comm]

/-- The length of parts put together. -/
theorem length_intercalate (parts : List (List α)) :
    (between.intercalate parts).length =
      (parts.map List.length).sum + between.length * (parts.length - 1) := by
  cases parts with
  | nil => simp
  | cons part rest =>
    rw [intercalate_cons, List.length_append, length_flatMap_append_left, List.map_cons,
      List.sum_cons, List.length_cons, Nat.add_sub_cancel, Nat.add_assoc]

/-- A sequence cut in two at one of its elements. -/
theorem eq_append_cons_of_getElem? {l : List α} {i : Nat} {a : α} (h : l[i]? = some a) :
    l = l.take i ++ a :: l.drop (i + 1) ∧ (l.take i).length = i := by
  obtain ⟨hi, rfl⟩ := List.getElem?_eq_some_iff.mp h
  rw [← List.drop_eq_getElem_cons hi, List.take_append_drop, List.length_take]
  exact ⟨rfl, Nat.min_eq_left (Nat.le_of_lt hi)⟩

section Places

variable {parts : List (List α)} {i : Nat} {part : List α}

/-- Behind the parts before it, and as many times what is put between, a part begins. -/
theorem drop_intercalate (h : parts[i]? = some part) :
    (between.intercalate parts).drop (((parts.take i).map List.length).sum + between.length * i) =
      part ++ (parts.drop (i + 1)).flatMap (between ++ ·) := by
  obtain ⟨hparts, hlength⟩ := eq_append_cons_of_getElem? h
  generalize parts.take i = before at hparts hlength ⊢
  generalize parts.drop (i + 1) = rest at hparts ⊢
  obtain rfl := hlength
  rw [hparts, intercalate_append_cons, ← length_flatMap_append, List.drop_left]

/-- A part is found again at its place. -/
theorem take_drop_intercalate (h : parts[i]? = some part) :
    ((between.intercalate parts).drop
      (((parts.take i).map List.length).sum + between.length * i)).take part.length = part := by
  rw [drop_intercalate between h, List.take_left]

/-- Behind a part that is not the last comes what is put between. -/
theorem take_drop_intercalate_between (h : parts[i]? = some part) (hnext : i + 1 < parts.length) :
    ((between.intercalate parts).drop (((parts.take i).map List.length).sum + between.length * i +
      part.length)).take between.length = between := by
  rw [← List.drop_drop, drop_intercalate between h, List.drop_left,
    List.drop_eq_getElem_cons hnext, List.flatMap_cons, List.append_assoc, List.take_left]

end Places

/-- Something that is not put between is in parts put together as often as in the parts. -/
theorem count_intercalate [DecidableEq α] {a : α} (h : a ∉ between) (parts : List (List α)) :
    (between.intercalate parts).count a = (parts.map (List.count a)).sum := by
  cases parts with
  | nil => simp
  | cons part rest =>
    have hbetween (p : List α) : (between ++ p).count a = p.count a := by
      rw [List.count_append, List.count_eq_zero.mpr h, Nat.zero_add]
    simp only [intercalate_cons, List.count_append, List.count_flatMap, Function.comp_def, hbetween,
      List.map_cons, List.sum_cons]

end CsvCleaning.Text
