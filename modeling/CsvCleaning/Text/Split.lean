/-!
# Splitting at separators

A sequence falls into the parts between its separators. There is always at least one part, no part
holds a separator, and putting a separator back between the parts gives the sequence again.
-/

namespace CsvCleaning.Text

variable {α : Type}

/-- The parts between separators, empty ones included. -/
def splitWhere (isSeparator : α → Bool) : List α → List (List α)
  | [] => [[]]
  | a :: rest =>
    if isSeparator a then [] :: splitWhere isSeparator rest
    else
      match splitWhere isSeparator rest with
      | [] => [[a]]
      | part :: more => (a :: part) :: more

/-- The part before the first separator and, if there is one, all after it. -/
def cutAt (isSeparator : α → Bool) : List α → List α × Option (List α)
  | [] => ([], none)
  | a :: rest =>
    if isSeparator a then ([], some rest)
    else (a :: (cutAt isSeparator rest).1, (cutAt isSeparator rest).2)

/-- There is always a first part. -/
theorem splitWhere_ne_nil (isSeparator : α → Bool) (xs : List α) :
    splitWhere isSeparator xs ≠ [] := by
  cases xs with
  | nil => simp [splitWhere]
  | cons a rest =>
    unfold splitWhere
    split
    · simp
    · split <;> simp

/-- A sequence without separators is a single part. -/
theorem splitWhere_of_all {isSeparator : α → Bool} {xs : List α}
    (h : ∀ x ∈ xs, isSeparator x = false) : splitWhere isSeparator xs = [xs] := by
  induction xs with
  | nil => rfl
  | cons a rest ih =>
    rw [splitWhere, ih fun x hx => h x (List.mem_cons_of_mem _ hx)]
    simp [h a List.mem_cons_self]

/-- No part holds a separator. -/
theorem not_isSeparator_of_mem_splitWhere {isSeparator : α → Bool} {xs part : List α} {x : α}
    (hp : part ∈ splitWhere isSeparator xs) (hx : x ∈ part) : isSeparator x = false := by
  induction xs generalizing part with
  | nil => simp_all [splitWhere]
  | cons a rest ih =>
    unfold splitWhere at hp
    split at hp
    · rcases List.mem_cons.1 hp with rfl | hp
      · cases hx
      · exact ih hp hx
    · rename_i ha
      split at hp
      · rename_i he
        exact absurd he (splitWhere_ne_nil _ _)
      · rename_i first more he
        rcases List.mem_cons.1 hp with rfl | hp
        · rcases List.mem_cons.1 hx with rfl | hx
          · simpa using ha
          · exact ih (he ▸ List.mem_cons_self) hx
        · exact ih (he ▸ List.mem_cons_of_mem _ hp) hx

/-- Parts before a separator in front of more parts are found again. -/
theorem splitWhere_append_cons {isSeparator : α → Bool} {xs : List α} {s : α} (ys : List α)
    (h : ∀ x ∈ xs, isSeparator x = false) (hs : isSeparator s = true) :
    splitWhere isSeparator (xs ++ s :: ys) = xs :: splitWhere isSeparator ys := by
  induction xs with
  | nil => simp [splitWhere, hs]
  | cons a rest ih =>
    rw [List.cons_append, splitWhere, ih fun x hx => h x (List.mem_cons_of_mem _ hx)]
    simp [h a List.mem_cons_self]

/-- A cut at the first separator after a stretch without any. -/
theorem cutAt_append_cons {isSeparator : α → Bool} {xs : List α} {s : α} (ys : List α)
    (h : ∀ x ∈ xs, isSeparator x = false) (hs : isSeparator s = true) :
    cutAt isSeparator (xs ++ s :: ys) = (xs, some ys) := by
  induction xs with
  | nil => simp [cutAt, hs]
  | cons a rest ih =>
    simp [cutAt, h a List.mem_cons_self, ih fun x hx => h x (List.mem_cons_of_mem _ hx)]

/-- A sequence without separators is not cut. -/
theorem cutAt_of_all {isSeparator : α → Bool} {xs : List α}
    (h : ∀ x ∈ xs, isSeparator x = false) : cutAt isSeparator xs = (xs, none) := by
  induction xs with
  | nil => rfl
  | cons a rest ih =>
    simp [cutAt, h a List.mem_cons_self, ih fun x hx => h x (List.mem_cons_of_mem _ hx)]

end CsvCleaning.Text
