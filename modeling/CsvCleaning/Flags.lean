/-!
# Stage flags

Four flags say which stages of a run are complete. They are ordered when none is set without the
one before it.
-/

namespace CsvCleaning

/-- Which stages are complete. -/
structure Flags where
  uploaded : Bool
  processed : Bool
  executed : Bool
  ready : Bool
deriving DecidableEq, Repr

namespace Flags

/-- No stage is complete. -/
def none : Flags :=
  ⟨false, false, false, false⟩

instance : Inhabited Flags :=
  ⟨none⟩

/-- The flags in the order of the stages. -/
def toList (f : Flags) : List Bool :=
  [f.uploaded, f.processed, f.executed, f.ready]

/-- Decide whether no flag is set without the one before it. -/
def isOrdered (f : Flags) : Bool :=
  (f.uploaded || !f.processed) && (f.processed || !f.executed) && (f.executed || !f.ready)

/-- Raise the reported flags, each only if the one before it is set after raising. -/
def merge (f reported : Flags) : Flags :=
  let uploaded := f.uploaded || reported.uploaded
  let processed := f.processed || (reported.processed && uploaded)
  let executed := f.executed || (reported.executed && processed)
  let ready := f.ready || (reported.ready && executed)
  ⟨uploaded, processed, executed, ready⟩

/-- The flags that are set in either. -/
def join (f g : Flags) : Flags :=
  ⟨f.uploaded || g.uploaded, f.processed || g.processed, f.executed || g.executed,
    f.ready || g.ready⟩

/-- Every flag of `f` is set in `g`. -/
def le (f g : Flags) : Prop :=
  (f.uploaded = true → g.uploaded = true) ∧ (f.processed = true → g.processed = true) ∧
    (f.executed = true → g.executed = true) ∧ (f.ready = true → g.ready = true)

instance : LE Flags :=
  ⟨le⟩

instance (f g : Flags) : Decidable (f ≤ g) :=
  inferInstanceAs (Decidable (_ ∧ _ ∧ _ ∧ _))

/-- Flags are below themselves. -/
protected theorem le_refl (f : Flags) : f ≤ f :=
  ⟨id, id, id, id⟩

/-- Being below carries over. -/
protected theorem le_trans {f g h : Flags} (hfg : f ≤ g) (hgh : g ≤ h) : f ≤ h :=
  ⟨hgh.1 ∘ hfg.1, hgh.2.1 ∘ hfg.2.1, hgh.2.2.1 ∘ hfg.2.2.1, hgh.2.2.2 ∘ hfg.2.2.2⟩

/-- Merging clears no flag. -/
theorem le_merge (f reported : Flags) : f ≤ f.merge reported := by
  refine ⟨?_, ?_, ?_, ?_⟩ <;> intro h <;> simp [merge, h]

/-- Merging into ordered flags leaves them ordered. -/
theorem isOrdered_merge {f : Flags} (h : f.isOrdered = true) (reported : Flags) :
    (f.merge reported).isOrdered = true := by
  obtain ⟨a, b, c, d⟩ := f
  obtain ⟨a', b', c', d'⟩ := reported
  revert h
  revert a b c d a' b' c' d'
  decide

end Flags

end CsvCleaning
