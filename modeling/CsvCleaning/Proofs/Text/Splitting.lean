import CsvCleaning.Text.Split

/-!
# Splitting what is put together

The parts of two sequences with a separator between them are the parts of the one and then those of
the other.
-/

namespace CsvCleaning.Text

variable {α : Type} {isSeparator : α → Bool}

/-- The parts of sequences with a separator between them. -/
theorem splitWhere_append_separator (xs : List α) {s : α} (hs : isSeparator s = true) (ys : List α) :
    splitWhere isSeparator (xs ++ s :: ys) =
      splitWhere isSeparator xs ++ splitWhere isSeparator ys := by
  induction xs with
  | nil => simp [splitWhere, hs]
  | cons a rest ih =>
    rw [List.cons_append, splitWhere, splitWhere, ih]
    split
    · rfl
    · obtain ⟨part, more, hrest⟩ := List.exists_cons_of_ne_nil (splitWhere_ne_nil isSeparator rest)
      rw [hrest]
      rfl

/-- The parts of sequences that are each ended by a separator; there is an empty one behind the last. -/
theorem splitWhere_flatMap_append {s : α} (hs : isSeparator s = true) (xss : List (List α)) :
    splitWhere isSeparator (xss.flatMap (· ++ [s])) =
      xss.flatMap (splitWhere isSeparator) ++ [[]] := by
  induction xss with
  | nil => rfl
  | cons xs rest ih =>
    rw [List.flatMap_cons, List.flatMap_cons, List.append_assoc, List.append_assoc, ← ih]
    exact splitWhere_append_separator xs hs _

/-- Sequences without separators are the parts of each of them. -/
theorem flatMap_splitWhere_of_all {xss : List (List α)}
    (h : ∀ xs ∈ xss, ∀ x ∈ xs, isSeparator x = false) :
    xss.flatMap (splitWhere isSeparator) = xss := by
  induction xss with
  | nil => rfl
  | cons xs rest ih =>
    obtain ⟨hxs, hrest⟩ := List.forall_mem_cons.mp h
    rw [List.flatMap_cons, splitWhere_of_all hxs, ih hrest, List.singleton_append]

/-- Sequences without separators are found again if each is ended by a separator. -/
theorem splitWhere_flatMap_append_of_all {s : α} (hs : isSeparator s = true) {xss : List (List α)}
    (h : ∀ xs ∈ xss, ∀ x ∈ xs, isSeparator x = false) :
    splitWhere isSeparator (xss.flatMap (· ++ [s])) = xss ++ [[]] := by
  rw [splitWhere_flatMap_append hs, flatMap_splitWhere_of_all h]

/-- Parts without separators are found again when they were put together with a separator. -/
theorem splitWhere_intercalate {s : α} (hs : isSeparator s = true) {parts : List (List α)}
    (hne : parts ≠ []) (h : ∀ part ∈ parts, ∀ x ∈ part, isSeparator x = false) :
    splitWhere isSeparator ([s].intercalate parts) = parts := by
  induction parts with
  | nil => exact absurd rfl hne
  | cons part rest ih =>
    obtain ⟨hpart, hrest⟩ := List.forall_mem_cons.mp h
    cases rest with
    | nil => rw [List.intercalate_singleton, splitWhere_of_all hpart]
    | cons next more =>
      rw [List.intercalate_cons_cons, List.append_assoc, List.singleton_append,
        splitWhere_append_cons _ hpart hs, ih (List.cons_ne_nil _ _) hrest]

/-- There is one part exactly if there is no separator. -/
theorem length_splitWhere_eq_one_iff {xs : List α} :
    (splitWhere isSeparator xs).length = 1 ↔ ∀ x ∈ xs, isSeparator x = false := by
  constructor
  · intro hone x hx
    rw [← Bool.not_eq_true]
    intro hsep
    obtain ⟨before, after, rfl⟩ := List.append_of_mem hx
    rw [splitWhere_append_separator before hsep, List.length_append] at hone
    have hbefore := List.length_pos_iff.mpr (splitWhere_ne_nil isSeparator before)
    have hafter := List.length_pos_iff.mpr (splitWhere_ne_nil isSeparator after)
    omega
  · intro hall
    rw [splitWhere_of_all hall, List.length_singleton]

/-- A part of a sequence is a stretch of it. -/
theorem sublist_of_mem_splitWhere {xs part : List α} (h : part ∈ splitWhere isSeparator xs) :
    part.Sublist xs := by
  induction xs generalizing part with
  | nil =>
    obtain rfl := List.mem_singleton.mp h
    exact List.Sublist.refl []
  | cons a rest ih =>
    rw [splitWhere] at h
    split at h
    · rcases List.mem_cons.mp h with rfl | hmem
      · exact List.nil_sublist _
      · exact (ih hmem).cons a
    · obtain ⟨first, more, hrest⟩ := List.exists_cons_of_ne_nil (splitWhere_ne_nil isSeparator rest)
      rw [hrest] at h
      rcases List.mem_cons.mp h with rfl | hmem
      · exact (ih (hrest ▸ List.mem_cons_self)).cons_cons a
      · exact (ih (hrest ▸ List.mem_cons_of_mem _ hmem)).cons a

/-- What is put together with something between the parts is of this or of a part. -/
theorem of_mem_intercalate {between : List α} {parts : List (List α)} {x : α}
    (h : x ∈ between.intercalate parts) : x ∈ between ∨ ∃ part ∈ parts, x ∈ part := by
  induction parts with
  | nil => simp [List.intercalate] at h
  | cons part rest ih =>
    cases rest with
    | nil => exact .inr ⟨part, List.mem_cons_self, by simpa [List.intercalate] using h⟩
    | cons next more =>
      have hmem : x ∈ part ∨ x ∈ between ∨ x ∈ between.intercalate (next :: more) := by
        simpa [List.intercalate, List.intersperse] using h
      rcases hmem with hpart | hbetween | hrest
      · exact .inr ⟨part, List.mem_cons_self, hpart⟩
      · exact .inl hbetween
      · exact (ih hrest).imp_right fun ⟨p, hp, hx⟩ => ⟨p, List.mem_cons_of_mem _ hp, hx⟩

/-- A cut after a stretch without separators. -/
theorem cutAt_append_of_all {xs : List α} (h : ∀ x ∈ xs, isSeparator x = false) (ys : List α) :
    cutAt isSeparator (xs ++ ys) =
      (xs ++ (cutAt isSeparator ys).1, (cutAt isSeparator ys).2) := by
  induction xs with
  | nil => rfl
  | cons a rest ih =>
    simp [cutAt, h a List.mem_cons_self, ih fun x hx => h x (List.mem_cons_of_mem _ hx)]

/-- A sequence is cut at a separator that comes after a stretch without any. -/
theorem exists_of_cutAt {xs before after : List α}
    (h : cutAt isSeparator xs = (before, some after)) :
    ∃ s, isSeparator s = true ∧ (∀ x ∈ before, isSeparator x = false) ∧
      xs = before ++ s :: after := by
  induction xs generalizing before with
  | nil => cases h
  | cons a rest ih =>
    rw [cutAt] at h
    by_cases ha : isSeparator a = true
    · rw [if_pos ha] at h
      cases h
      exact ⟨a, ha, by simp, rfl⟩
    · rw [if_neg ha] at h
      obtain ⟨rfl, hafter⟩ := Prod.mk.inj h
      obtain ⟨s, hs, hbefore, hrest⟩ := ih (Prod.ext rfl hafter)
      exact ⟨s, hs, List.forall_mem_cons.mpr ⟨by simpa using ha, hbefore⟩, congrArg (a :: ·) hrest⟩

/-- The part after the separator is a stretch of the sequence. -/
theorem sublist_of_cutAt {xs before after : List α} (h : cutAt isSeparator xs = (before, some after)) :
    after.Sublist xs := by
  obtain ⟨s, -, -, rfl⟩ := exists_of_cutAt h
  exact (List.sublist_cons_self s after).trans (List.sublist_append_right before _)

/-- What is put after a cut sequence goes to the part after the separator. -/
theorem cutAt_append_of_some {xs before after : List α}
    (h : cutAt isSeparator xs = (before, some after)) (ys : List α) :
    cutAt isSeparator (xs ++ ys) = (before, some (after ++ ys)) := by
  obtain ⟨s, hs, hbefore, rfl⟩ := exists_of_cutAt h
  rw [List.append_assoc, List.cons_append, cutAt_append_cons (after ++ ys) hbefore hs]

/-- A sequence that is not cut holds no separator. -/
theorem not_isSeparator_of_cutAt {xs before : List α} (h : cutAt isSeparator xs = (before, none)) :
    ∀ x ∈ xs, isSeparator x = false := by
  induction xs generalizing before with
  | nil => simp
  | cons a rest ih =>
    rw [cutAt] at h
    split at h
    · cases h
    · rename_i ha
      intro x hx
      rcases List.mem_cons.mp hx with rfl | hx
      · simpa using ha
      · exact ih (Prod.ext rfl (Prod.mk.inj h).2) x hx

/-- The part before a cut holds no separator, and comes first. -/
theorem cutAt_fst (isSeparator : α → Bool) (xs : List α) :
    (∀ x ∈ (cutAt isSeparator xs).1, isSeparator x = false) ∧ (cutAt isSeparator xs).1 <+: xs := by
  induction xs with
  | nil => simp [cutAt]
  | cons a rest ih =>
    rw [cutAt]
    split
    · exact ⟨by simp, List.nil_prefix⟩
    · rename_i ha
      refine ⟨fun x hx => ?_, List.cons_prefix_cons.mpr ⟨rfl, ih.2⟩⟩
      rcases List.mem_cons.mp hx with rfl | hx
      · simpa using ha
      · exact ih.1 x hx

/-- A part without an element lies before every place of the element in the whole. -/
theorem exists_append_of_not_mem {xs ys front back : List α} {a : α} (ha : a ∉ xs)
    (h : xs ++ ys = front ++ a :: back) : ∃ left, front = xs ++ left ∧ ys = left ++ a :: back := by
  rcases List.append_eq_append_iff.mp h with ⟨left, hfront, hys⟩ | ⟨left, hxs, hback⟩
  · exact ⟨left, hfront, hys⟩
  · cases left with
    | nil => exact ⟨[], by simpa using hxs.symm, hback.symm⟩
    | cons b left =>
      obtain rfl : a = b := (List.cons.inj hback).1
      exact absurd (hxs ▸ List.mem_append_right front List.mem_cons_self) ha

/-- Of the places of an element there is a last one. -/
theorem exists_last_of_mem {xs : List α} {a : α} (h : a ∈ xs) :
    ∃ before after, xs = before ++ a :: after ∧ a ∉ after := by
  obtain ⟨after, before, hreverse, hafter⟩ := List.eq_append_cons_of_mem (List.mem_reverse.mpr h)
  refine ⟨before.reverse, after.reverse, ?_, fun hmem => hafter (List.mem_reverse.mp hmem)⟩
  rw [← List.reverse_reverse xs, hreverse, List.reverse_append, List.reverse_cons, List.append_assoc,
    List.singleton_append]

/-- Leading elements are dropped up to one that stays. -/
theorem dropWhile_append_cons (p : α → Bool) (xs : List α) {c : α} (hc : p c = false) (ys : List α) :
    (xs ++ c :: ys).dropWhile p = xs.dropWhile p ++ c :: ys := by
  rw [List.dropWhile_append]
  split
  · rename_i hempty
    rw [List.isEmpty_iff.mp hempty, List.dropWhile_cons_of_neg (by simp [hc]), List.nil_append]
  · rfl

/-- Leading elements are taken up to one that ends them. -/
theorem takeWhile_append_cons (p : α → Bool) (xs : List α) {c : α} (hc : p c = false) (ys : List α) :
    (xs ++ c :: ys).takeWhile p = xs.takeWhile p := by
  rw [List.takeWhile_append]
  split
  · rename_i hall
    rw [List.takeWhile_cons_of_neg (by simp [hc]), List.append_nil]
    exact ((List.takeWhile_prefix p).eq_of_length hall).symm
  · rfl

end CsvCleaning.Text
