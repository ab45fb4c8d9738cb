import CsvCleaning.Flags
import Mathlib.Tactic.Tauto

/-!
# Joining flags

Flags are ordered by which of them are set, and the join of two is the least that has every flag of
either. Merging is not joining: it leaves out a reported flag without the one before it. It never
raises more than the join, though, and if the reported flags are ordered it raises all of them.
-/

namespace CsvCleaning.Flags

/-- Flags that are below each other are the same. -/
protected theorem le_antisymm {f g : Flags} (hfg : f ≤ g) (hgf : g ≤ f) : f = g := by
  obtain ⟨h₁, h₂, h₃, h₄⟩ := hfg
  obtain ⟨h₁', h₂', h₃', h₄'⟩ := hgf
  have huploaded : f.uploaded = g.uploaded := Bool.eq_iff_iff.mpr ⟨h₁, h₁'⟩
  have hprocessed : f.processed = g.processed := Bool.eq_iff_iff.mpr ⟨h₂, h₂'⟩
  have hexecuted : f.executed = g.executed := Bool.eq_iff_iff.mpr ⟨h₃, h₃'⟩
  have hready : f.ready = g.ready := Bool.eq_iff_iff.mpr ⟨h₄, h₄'⟩
  calc
    f = ⟨f.uploaded, f.processed, f.executed, f.ready⟩ := rfl
    _ = g := by rw [huploaded, hprocessed, hexecuted, hready]

/-- No flags are below all flags. -/
theorem none_le (f : Flags) : none ≤ f := by
  refine ⟨?_, ?_, ?_, ?_⟩ <;> simp [none]

/-- A join is below what both of its parts are below. -/
theorem join_le_iff {f g h : Flags} : f.join g ≤ h ↔ f ≤ h ∧ g ≤ h := by
  change (_ ∧ _ ∧ _ ∧ _) ↔ (_ ∧ _ ∧ _ ∧ _) ∧ (_ ∧ _ ∧ _ ∧ _)
  simp only [join, Bool.or_eq_true, or_imp]
  tauto

/-- A join is above its first part. -/
theorem le_join_left (f g : Flags) : f ≤ f.join g :=
  (join_le_iff.mp (Flags.le_refl _)).1

/-- A join is above its second part. -/
theorem le_join_right (f g : Flags) : g ≤ f.join g :=
  (join_le_iff.mp (Flags.le_refl _)).2

/-- Merging raises no more than the reported flags. -/
theorem merge_le_join (f reported : Flags) : f.merge reported ≤ f.join reported := by
  refine ⟨?_, ?_, ?_, ?_⟩ <;> simp only [merge, join, Bool.or_eq_true, Bool.and_eq_true] <;> tauto

/-- Merging raises all reported flags if they are ordered. -/
theorem le_merge_of_isOrdered {reported : Flags} (h : reported.isOrdered = true) (f : Flags) :
    reported ≤ f.merge reported := by
  simp only [isOrdered, Bool.and_eq_true, Bool.or_eq_true, Bool.not_eq_true'] at h
  obtain ⟨⟨hprocessed, hexecuted⟩, hready⟩ := h
  refine ⟨?_, ?_, ?_, ?_⟩ <;> intro hset <;> simp_all [merge]

/-- Flags are ordered if each asks for the one before it. -/
theorem isOrdered_iff {f : Flags} :
    f.isOrdered = true ↔
      (f.processed = true → f.uploaded = true) ∧ (f.executed = true → f.processed = true) ∧
        (f.ready = true → f.executed = true) := by
  obtain ⟨uploaded, processed, executed, ready⟩ := f
  revert uploaded processed executed ready
  decide

/-- A flag that is set or reported is set after merging if the one before it is. -/
theorem raised {f reported before : Bool} (h : f = true ∨ reported = true)
    (hbefore : before = true) : (f || (reported && before)) = true := by
  rw [hbefore, Bool.and_true, Bool.or_eq_true]
  exact h

/-- Merging raises every ordered part of the join. -/
theorem le_merge_of_le_join {f reported g : Flags} (hordered : g.isOrdered = true)
    (h : g ≤ f.join reported) : g ≤ f.merge reported := by
  obtain ⟨hprocessed, hexecuted, hready⟩ := isOrdered_iff.mp hordered
  obtain ⟨h₁, h₂, h₃, h₄⟩ := h
  simp only [join, Bool.or_eq_true] at h₁ h₂ h₃ h₄
  -- Each flag of the merged ones asks for the one before, which `g` has because it is ordered.
  have uploaded : g.uploaded = true → (f.merge reported).uploaded = true := fun hg =>
    Bool.or_eq_true _ _ ▸ h₁ hg
  have processed : g.processed = true → (f.merge reported).processed = true := fun hg =>
    raised (h₂ hg) (uploaded (hprocessed hg))
  have executed : g.executed = true → (f.merge reported).executed = true := fun hg =>
    raised (h₃ hg) (processed (hexecuted hg))
  have ready : g.ready = true → (f.merge reported).ready = true := fun hg =>
    raised (h₄ hg) (executed (hready hg))
  exact ⟨uploaded, processed, executed, ready⟩

/-- The flags that are set in any. -/
def joinAll (l : List Flags) : Flags :=
  l.foldr join none

/-- The join of a list is below what every part of it is below. -/
theorem joinAll_le_iff {l : List Flags} {g : Flags} : joinAll l ≤ g ↔ ∀ f ∈ l, f ≤ g := by
  induction l with
  | nil => simp [joinAll, none_le]
  | cons f rest ih =>
    rw [List.forall_mem_cons, ← ih]
    exact join_le_iff

/-- The join of a list is above every part of it. -/
theorem le_joinAll {l : List Flags} {f : Flags} (h : f ∈ l) : f ≤ joinAll l :=
  joinAll_le_iff.mp (Flags.le_refl _) f h

/-- More flags have a larger join. -/
theorem joinAll_mono {l l' : List Flags} (h : l ⊆ l') : joinAll l ≤ joinAll l' :=
  joinAll_le_iff.mpr fun _ hf => le_joinAll (h hf)

end CsvCleaning.Flags
