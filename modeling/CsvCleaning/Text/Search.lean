/-!
# Finding one text in another
-/

namespace CsvCleaning.Text

/-- Decide whether `needle` occurs in `hay` as consecutive elements. -/
def occursIn {α : Type} [DecidableEq α] (needle : List α) : List α → Bool
  | [] => needle.isEmpty
  | c :: rest => needle.isPrefixOf (c :: rest) || occursIn needle rest

/-- A text occurs in another exactly when the other is some text, then it, then some text. -/
theorem occursIn_iff {α : Type} [DecidableEq α] {needle hay : List α} :
    occursIn needle hay = true ↔ ∃ before after, hay = before ++ needle ++ after := by
  induction hay with
  | nil =>
    constructor
    · intro h
      exact ⟨[], [], by simpa [occursIn] using h⟩
    · rintro ⟨before, after, h⟩
      have h' := List.append_eq_nil_iff.1 h.symm
      simp [occursIn, (List.append_eq_nil_iff.1 h'.1).2]
  | cons c rest ih =>
    simp only [occursIn, Bool.or_eq_true, ih, List.isPrefixOf_iff_prefix]
    constructor
    · rintro (⟨after, h⟩ | ⟨before, after, h⟩)
      · exact ⟨[], after, by simp [h]⟩
      · exact ⟨c :: before, after, by simp [h]⟩
    · rintro ⟨before, after, h⟩
      cases before with
      | nil => exact .inl ⟨after, by simpa using h.symm⟩
      | cons b before =>
        simp only [List.cons_append, List.cons.injEq] at h
        exact .inr ⟨before, after, h.2⟩

/-- Every text occurs in itself. -/
theorem occursIn_self {α : Type} [DecidableEq α] (cs : List α) : occursIn cs cs = true :=
  occursIn_iff.2 ⟨[], [], by simp⟩

/-- The empty text occurs in every text. -/
theorem occursIn_nil {α : Type} [DecidableEq α] (hay : List α) :
    occursIn ([] : List α) hay = true :=
  occursIn_iff.2 ⟨[], hay, by simp⟩

end CsvCleaning.Text
