import CsvCleaning.Proofs.Flags
import CsvCleaning.Run.Record
import Mathlib.Order.Bounds.Basic

/-!
# Amending a record

A record is amended by marking stages, by noting and forgetting a failure, and by folding status
reports in, in any order and with reports that may say anything about any file. Whatever is done to
it, the flags that it was made with stay set and stay ordered. A mark is refused precisely if the
flag before its own is not set. A report raises as many flags as can be raised of those it has
without breaking the order.

A record is amended in place, write by write, so a refusal that comes late would leave it half
amended. None does, and the functions on records give the same (`amend_eq`).
-/

namespace CsvCleaning

/-- Merging ordered flags gives the most of the join that is ordered. -/
theorem Flags.isGreatest_merge {f : Flags} (h : f.isOrdered = true)
    (reported : Flags) :
    IsGreatest {g | g.isOrdered = true ∧ g ≤ f.join reported} (f.merge reported) := by
  refine ⟨⟨Flags.isOrdered_merge h reported, f.merge_le_join reported⟩, ?_⟩
  rintro g ⟨hordered, hle⟩
  exact Flags.le_merge_of_le_join hordered hle

/-- Something that is done to a record. -/
inductive Amendment where
  | markProcessed (script : Option String) (summary : Option DataSummary)
  | markExecuted (rows : Nat)
  | markReady
  | setError (message : String)
  | clearError
  | mergeStatus (report : StatusReport)

namespace Amendment

/-- What an amendment returns: nothing, a refusal, or whether it changed the flags. -/
inductive Verdict where
  | noted
  | refused (f : Failure)
  | merged (changed : Bool)
deriving DecidableEq

/-- The flag that has to be set for a mark to be taken. -/
def condition? (m : Amendment) (f : Flags) : Option Bool :=
  match m with
  | .markProcessed _ _ => some f.uploaded
  | .markExecuted _ => some f.processed
  | .markReady => some f.executed
  | .setError _ | .clearError | .mergeStatus _ => none

end Amendment

namespace Record

/-- Work on a record in place. What was written before a refusal stays written. -/
abbrev InPlace := EStateM Failure Record

/-- Note a stage in place, unless the flag before its own is not set. -/
def mark (isSet : Flags → Bool) (refusal : String) (note : Record → Record) :
    InPlace Amendment.Verdict := do
  if !isSet (← get).flags then
    throw (.invalidTransition refusal)
  modify note
  modify touch
  return .noted

/-- Change the flags in place. -/
def changeFlags (change : Flags → Flags) : InPlace Unit :=
  modify fun a => { a with flags := change a.flags }

/-- Raise the reported flags in place, one after the other, each only if the one before it is set by
then. -/
def raiseFlags (reported : Flags) : InPlace Unit := do
  changeFlags fun f => { f with uploaded := f.uploaded || reported.uploaded }
  changeFlags fun f => { f with processed := f.processed || (reported.processed && f.uploaded) }
  changeFlags fun f => { f with executed := f.executed || (reported.executed && f.processed) }
  changeFlags fun f => { f with ready := f.ready || (reported.ready && f.executed) }

/-- Fold a report in, in place. -/
def foldIn (report : StatusReport) : InPlace Amendment.Verdict := do
  if report.fileId ≠ (← get).fileId then
    return .merged false
  let before := (← get).flags
  raiseFlags report.flags
  let changed := (← get).flags != before
  if changed then
    modify touch
  return .merged changed

/-- What an amendment does to a record in place. -/
def amending : Amendment → InPlace Amendment.Verdict
  | .markProcessed script summary =>
    mark (·.uploaded) "cannot mark processed before upload" fun a =>
      { a with
        flags := { a.flags with processed := true }
        script := script.or a.script
        dataSummary := summary.or a.dataSummary }
  | .markExecuted rows =>
    mark (·.processed) "cannot mark executed before llm processing" fun a =>
      { a with flags := { a.flags with executed := true }, processedRowCount := some rows }
  | .markReady =>
    mark (·.executed) "cannot mark ready before script execution" fun a =>
      { a with flags := { a.flags with ready := true } }
  | .setError message => do
    modify (·.setError message)
    return .noted
  | .clearError => do
    modify clearError
    return .noted
  | .mergeStatus report => foldIn report

/-- Do something to a record: what that returns, and the record as it is then. -/
def amend (a : Record) (m : Amendment) : Amendment.Verdict × Record :=
  match (amending m).run a with
  | .ok verdict b => (verdict, b)
  | .error f b => (.refused f, b)

/-- A mark as a function of the record: the record as it was if it is refused. -/
def orKeep (a : Record) : Except Failure Record → Amendment.Verdict × Record
  | .ok b => (.noted, b)
  | .error f => (.refused f, a)

/-- A stage is noted in place if the flag before its own is set; else the record stays as it was. -/
theorem run_mark (isSet : Flags → Bool) (refusal : String) (note : Record → Record) (a : Record) :
    (mark isSet refusal note).run a =
      if isSet a.flags then .ok .noted (note a).touch
      else .error (.invalidTransition refusal) a := by
  cases h : isSet a.flags <;> simp [mark, h, -bind_pure_comp]

/-- Raising flags one after the other merges them. -/
theorem run_raiseFlags (reported : Flags) (a : Record) :
    (raiseFlags reported).run a = .ok () { a with flags := a.flags.merge reported } :=
  rfl

/-- Folding a report in, in place, gives what folding it in gives. -/
theorem run_foldIn (report : StatusReport) (a : Record) :
    (foldIn report).run a = .ok (.merged (a.changedBy report)) (a.mergeStatus report) := by
  by_cases hid : report.fileId = a.fileId
  · by_cases hflags : a.flags.merge report.flags = a.flags
    · simp [foldIn, run_raiseFlags, changedBy, mergeStatus, hid, hflags]
    · simp [foldIn, run_raiseFlags, changedBy, mergeStatus, hid, hflags, touch, -bind_pure_comp]
  · simp [foldIn, changedBy, mergeStatus_of_ne hid, hid]

/-- What is done in place is what the functions on records give. -/
theorem amend_eq (a : Record) (m : Amendment) :
    a.amend m =
      match m with
      | .markProcessed script summary => a.orKeep (a.markProcessed script summary)
      | .markExecuted rows => a.orKeep (a.markExecuted rows)
      | .markReady => a.orKeep a.markReady
      | .setError message => (.noted, a.setError message)
      | .clearError => (.noted, a.clearError)
      | .mergeStatus report => (.merged (a.changedBy report), a.mergeStatus report) := by
  cases m with
  | markProcessed script summary =>
    cases h : a.flags.uploaded <;> simp [amend, amending, run_mark, markProcessed, orKeep, h]
  | markExecuted rows =>
    cases h : a.flags.processed <;> simp [amend, amending, run_mark, markExecuted, orKeep, h]
  | markReady =>
    cases h : a.flags.executed <;> simp [amend, amending, run_mark, markReady, orKeep, h]
  | setError message | clearError => rfl
  | mergeStatus report => simp [amend, amending, run_foldIn]

/-- Do one thing after the other to a record. -/
def amendAll (a : Record) (history : List Amendment) : Record :=
  history.foldl (fun b m => (b.amend m).2) a

/-- A mark with its flag is taken. -/
theorem amend_eq_noted {a : Record} {m : Amendment} (h : m.condition? a.flags = some true) :
    (a.amend m).1 = .noted := by
  cases m with
  | markProcessed script summary | markExecuted rows | markReady =>
    simp only [Amendment.condition?, Option.some.injEq] at h
    simp [amend_eq, markProcessed, markExecuted, markReady, orKeep, h]
  | setError message | clearError | mergeStatus report => cases h

/-- A mark without its flag is refused, and the record is left as it was. -/
theorem amend_eq_refused {a : Record} {m : Amendment} (h : m.condition? a.flags = some false) :
    ∃ f, a.amend m = (.refused f, a) := by
  cases m with
  | markProcessed script summary | markExecuted rows | markReady =>
    simp only [Amendment.condition?, Option.some.injEq] at h
    simp [amend_eq, markProcessed, markExecuted, markReady, orKeep, h]
  | setError message | clearError | mergeStatus report => cases h

/-- Marks alone are refused, and they precisely if the flag before their own is not set. -/
theorem amend_refused_iff (a : Record) (m : Amendment) :
    (∃ f, (a.amend m).1 = .refused f) ↔ m.condition? a.flags = some false := by
  refine ⟨fun ⟨f, hrefused⟩ => ?_, fun h => ?_⟩
  · match hcondition : m.condition? a.flags with
    | some false => rfl
    | some true => cases (amend_eq_noted hcondition).symm.trans hrefused
    | none =>
      rw [amend_eq] at hrefused
      cases m <;> cases hcondition <;> cases hrefused
  · obtain ⟨f, hamend⟩ := amend_eq_refused h
    exact ⟨f, by rw [hamend]⟩

/-- What an amendment does to the flags: nothing, or it sets the one after a flag that is set, or it
merges those of a report about the file. -/
theorem flags_amend (a : Record) (m : Amendment) :
    (a.amend m).2.flags = a.flags ∨
      (a.flags.uploaded = true ∧ (a.amend m).2.flags = { a.flags with processed := true }) ∨
      (a.flags.processed = true ∧ (a.amend m).2.flags = { a.flags with executed := true }) ∨
      (a.flags.executed = true ∧ (a.amend m).2.flags = { a.flags with ready := true }) ∨
      ∃ reported, (a.amend m).2.flags = a.flags.merge reported := by
  cases m with
  | markProcessed script summary =>
    cases huploaded : a.flags.uploaded with
    | false => exact .inl (by simp [amend_eq, markProcessed, orKeep, huploaded])
    | true =>
      exact .inr (.inl ⟨rfl, by simp [amend_eq, markProcessed, orKeep, huploaded, touch]⟩)
  | markExecuted rows =>
    cases hprocessed : a.flags.processed with
    | false => exact .inl (by simp [amend_eq, markExecuted, orKeep, hprocessed])
    | true =>
      exact .inr (.inr (.inl ⟨rfl, by simp [amend_eq, markExecuted, orKeep, hprocessed, touch]⟩))
  | markReady =>
    cases hexecuted : a.flags.executed with
    | false => exact .inl (by simp [amend_eq, markReady, orKeep, hexecuted])
    | true =>
      exact .inr (.inr (.inr (.inl ⟨rfl, by simp [amend_eq, markReady, orKeep, hexecuted, touch]⟩)))
  | setError message | clearError => exact .inl rfl
  | mergeStatus report =>
    rw [amend_eq]
    by_cases hid : report.fileId = a.fileId
    · exact .inr (.inr (.inr (.inr ⟨report.flags, flags_mergeStatus hid⟩)))
    · exact .inl (congrArg Record.flags (mergeStatus_of_ne hid))

/-- No amendment clears a flag. -/
theorem flags_le_amend (a : Record) (m : Amendment) : a.flags ≤ (a.amend m).2.flags := by
  rcases a.flags_amend m with h | ⟨-, h⟩ | ⟨-, h⟩ | ⟨-, h⟩ | ⟨reported, h⟩ <;> rw [h]
  · exact Flags.le_refl _
  · exact ⟨id, fun _ => rfl, id, id⟩
  · exact ⟨id, id, fun _ => rfl, id⟩
  · exact ⟨id, id, id, fun _ => rfl⟩
  · exact Flags.le_merge _ _

/-- Every amendment keeps the flags ordered. -/
theorem isOrdered_amend {a : Record} (h : a.flags.isOrdered = true) (m : Amendment) :
    (a.amend m).2.flags.isOrdered = true := by
  rcases a.flags_amend m with hm | ⟨hset, hm⟩ | ⟨hset, hm⟩ | ⟨hset, hm⟩ | ⟨reported, hm⟩ <;> rw [hm]
  · exact h
  · obtain ⟨-, hexecuted, hready⟩ := Flags.isOrdered_iff.mp h
    exact Flags.isOrdered_iff.mpr ⟨fun _ => hset, fun _ => rfl, hready⟩
  · obtain ⟨hprocessed, -, hready⟩ := Flags.isOrdered_iff.mp h
    exact Flags.isOrdered_iff.mpr ⟨hprocessed, fun _ => hset, fun _ => rfl⟩
  · obtain ⟨hprocessed, hexecuted, -⟩ := Flags.isOrdered_iff.mp h
    exact Flags.isOrdered_iff.mpr ⟨hprocessed, hexecuted, fun _ => hset⟩
  · exact Flags.isOrdered_merge h reported

/-- Amendments clear no flag and keep the flags ordered. -/
theorem flags_amendAll {a : Record} (h : a.flags.isOrdered = true) (history : List Amendment) :
    (a.amendAll history).flags.isOrdered = true ∧ a.flags ≤ (a.amendAll history).flags := by
  induction history generalizing a with
  | nil => exact ⟨h, Flags.le_refl _⟩
  | cons m rest ih =>
    obtain ⟨hordered, hle⟩ := ih (isOrdered_amend h m)
    exact ⟨hordered, Flags.le_trans (a.flags_le_amend m) hle⟩

/-- Folding a report in changes nothing but the flags and the number of updates. -/
theorem mergeStatus_eq (a : Record) (report : StatusReport) :
    a.mergeStatus report =
      { a with
        flags := (a.mergeStatus report).flags
        revision := (a.mergeStatus report).revision } := by
  by_cases hid : report.fileId = a.fileId
  · by_cases hflags : a.flags.merge report.flags = a.flags
    · simp [mergeStatus, hid, hflags]
    · simp [mergeStatus, hid, hflags, touch]
  · rw [mergeStatus_of_ne hid]

/-- A record that a report is said to have changed is touched once, any other one is not. -/
theorem revision_mergeStatus (a : Record) (report : StatusReport) :
    (a.mergeStatus report).revision =
      if a.changedBy report then a.revision + 1 else a.revision := by
  by_cases hid : report.fileId = a.fileId
  · by_cases hflags : a.flags.merge report.flags = a.flags
    · simp [changedBy, mergeStatus, hid, hflags]
    · simp [changedBy, mergeStatus, hid, hflags, touch]
  · simp [changedBy, mergeStatus_of_ne hid]

/-- A report is said to have changed a record if the flags are other ones. -/
theorem changedBy_iff_flags (a : Record) (report : StatusReport) :
    a.changedBy report = true ↔ (a.mergeStatus report).flags ≠ a.flags :=
  bne_iff_ne

/-- A report is said to have changed a record if the record was touched. -/
theorem changedBy_iff_revision (a : Record) (report : StatusReport) :
    a.changedBy report = true ↔ (a.mergeStatus report).revision ≠ a.revision := by
  rw [revision_mergeStatus]
  cases a.changedBy report <;> simp

/-- The record of a file just uploaded has its first flag alone. -/
theorem flags_of_uploaded {run : Nat} {fileId filename : String} {a : Record}
    (h : uploaded run fileId filename = .ok a) :
    a.flags = { Flags.none with uploaded := true } := by
  unfold uploaded at h
  split at h
  · cases h
  · obtain rfl := Except.ok.inj h
    rfl

/-- Whatever is done to the record of an uploaded file, its first flag stays set, its flags stay
ordered and none is cleared. A mark is refused precisely if the flag before its own is not set, and
a refusal leaves the record as it was. A report about another file does nothing. One about the file
raises as many of its flags as the order allows and changes nothing else; it is said to have changed
the record precisely if the flags are other ones, and then the record is touched. -/
theorem history_keeps_flags {run : Nat} {fileId filename : String} {a₀ : Record}
    (h : uploaded run fileId filename = .ok a₀) (history : List Amendment) :
    let a := a₀.amendAll history
    a.flags.uploaded = true ∧ a.flags.isOrdered = true ∧
      (∀ further, a.flags ≤ (a.amendAll further).flags) ∧
      (∀ m, (∃ f, (a.amend m).1 = .refused f) ↔ m.condition? a.flags = some false) ∧
      (∀ m f, (a.amend m).1 = .refused f → (a.amend m).2 = a) ∧
      (∀ report, report.fileId ≠ a.fileId →
        a.amend (.mergeStatus report) = (.merged false, a)) ∧
      ∀ report, report.fileId = a.fileId →
        ∃ changed b, a.amend (.mergeStatus report) = (.merged changed, b) ∧
          IsGreatest {g | g.isOrdered = true ∧ g ≤ a.flags.join report.flags} b.flags ∧
          b = { a with flags := b.flags, revision := b.revision } ∧
          (changed = true ↔ b.flags ≠ a.flags) ∧ (b.flags ≠ a.flags ↔ b.revision ≠ a.revision) := by
  intro a
  have hfirst := flags_of_uploaded h
  have hordered₀ : a₀.flags.isOrdered = true := by rw [hfirst]; rfl
  obtain ⟨hordered, hle⟩ := flags_amendAll hordered₀ history
  refine ⟨hle.1 (by rw [hfirst]), hordered, fun further => (flags_amendAll hordered further).2,
    a.amend_refused_iff, ?_, ?_, ?_⟩
  · intro m f hrefused
    obtain ⟨_, hkept⟩ := amend_eq_refused ((a.amend_refused_iff m).mp ⟨f, hrefused⟩)
    rw [hkept]
  · intro report hid
    simp [amend_eq, changedBy, mergeStatus_of_ne hid]
  · intro report hid
    have hflags := changedBy_iff_flags a report
    refine ⟨a.changedBy report, a.mergeStatus report, a.amend_eq _, ?_, a.mergeStatus_eq report,
      hflags, hflags.symm.trans (changedBy_iff_revision a report)⟩
    rw [flags_mergeStatus hid]
    exact Flags.isGreatest_merge hordered report.flags

/-- A record that was refused its last mark is told of an execution without processing, which raises
nothing, and then of both, which raises both. -/
theorem history_keeps_flags_of_wild_reports :
    let told (processed : Bool) : Amendment :=
      .mergeStatus ⟨"abc123", { Flags.none with processed, executed := true }⟩
    ∃ a₀, uploaded 0 "abc123" "sales.csv" = .ok a₀ ∧
      (a₀.amendAll [.markReady, told false]).flags = a₀.flags ∧
      (a₀.amendAll [.markReady, told false, told true]).flags = ⟨true, true, true, false⟩ ∧
      (a₀.amendAll [.markReady, told false, told true]).flags.isOrdered = true ∧
      ¬∃ f, ((a₀.amendAll [.markReady, told false, told true]).amend .markReady).1 =
        .refused f := by
  intro told
  have hmade : uploaded 0 "abc123" "sales.csv" = .ok
      { run := 0, fileId := "abc123", filename := "sales.csv"
        flags := { Flags.none with uploaded := true }, processedRowCount := none
        lastError := none, script := none, dataSummary := none, revision := 0 } := by decide
  obtain ⟨-, hordered, -, hrefused, -⟩ :=
    history_keeps_flags hmade [.markReady, told false, told true]
  exact ⟨_, hmade, rfl, rfl, hordered, by rw [hrefused]; decide⟩

end Record

end CsvCleaning
