import CsvCleaning.Run.Machine
import Mathlib.Data.Option.Basic

/-!
# What status refreshes can do to a run

A record is raised to another one if the two differ in nothing but their flags and the second has
every flag of the first. A run is raised to another one if its record is, and file, phase and
result are the same; which refreshes are on their way and what was published does not count.
Ordering a refresh, taking one that came back and waiting for all of them only raise a run, for
whatever comes back and in whatever order.
-/

namespace CsvCleaning

/-- The second record is the first one, perhaps with more flags. -/
structure Record.RaisedTo (a b : Record) : Prop where
  run : b.run = a.run
  fileId : b.fileId = a.fileId
  filename : b.filename = a.filename
  script : b.script = a.script
  dataSummary : b.dataSummary = a.dataSummary
  processedRowCount : b.processedRowCount = a.processedRowCount
  lastError : b.lastError = a.lastError
  flags : a.flags ≤ b.flags

namespace Record.RaisedTo

/-- A record is raised to itself. -/
protected theorem refl (a : Record) : a.RaisedTo a :=
  ⟨rfl, rfl, rfl, rfl, rfl, rfl, rfl, a.flags.le_refl⟩

/-- Raising twice is raising. -/
protected theorem trans {a b c : Record} (h : a.RaisedTo b) (h' : b.RaisedTo c) : a.RaisedTo c where
  run := h'.run.trans h.run
  fileId := h'.fileId.trans h.fileId
  filename := h'.filename.trans h.filename
  script := h'.script.trans h.script
  dataSummary := h'.dataSummary.trans h.dataSummary
  processedRowCount := h'.processedRowCount.trans h.processedRowCount
  lastError := h'.lastError.trans h.lastError
  flags := Flags.le_trans h.flags h'.flags

/-- Folding a report in raises a record, whatever the report says. -/
theorem mergeStatus (a : Record) (report : StatusReport) : a.RaisedTo (a.mergeStatus report) := by
  unfold Record.mergeStatus
  split
  · dsimp only
    split
    · exact .refl a
    · exact ⟨rfl, rfl, rfl, rfl, rfl, rfl, rfl, a.flags.le_merge report.flags⟩
  · exact .refl a

end Record.RaisedTo

namespace Run

/-- What the call of a stage is about depends on the file and the file id alone. -/
theorem request?_congr {r r' : Run} (hfile : r'.file = r.file) (hfileId : r'.fileId = r.fileId)
    (stage : Stage) : r'.request? stage = r.request? stage := by
  cases stage <;> simp only [request?, hfile, hfileId]

/-- The second run is the first one, perhaps with more flags in its record. -/
structure RaisedTo (r r' : Run) : Prop where
  id : r'.id = r.id
  file : r'.file = r.file
  phase : r'.phase = r.phase
  result : r'.result = r.result
  record : Option.Rel Record.RaisedTo r.record r'.record

namespace RaisedTo

/-- A run is raised to one with the same file, phase, result and record. -/
theorem of_eq {r r' : Run} (id : r'.id = r.id) (file : r'.file = r.file)
    (phase : r'.phase = r.phase) (result : r'.result = r.result) (record : r'.record = r.record) :
    r.RaisedTo r' := by
  refine ⟨id, file, phase, result, ?_⟩
  rw [record]
  cases r.record with
  | none => exact .none
  | some a => exact .some (.refl a)

/-- A run is raised to itself. -/
protected theorem refl (r : Run) : r.RaisedTo r :=
  of_eq rfl rfl rfl rfl rfl

/-- Raising twice is raising. -/
protected theorem trans {r₁ r₂ r₃ : Run} (h : r₁.RaisedTo r₂) (h' : r₂.RaisedTo r₃) :
    r₁.RaisedTo r₃ := by
  refine ⟨h'.id.trans h.id, h'.file.trans h.file, h'.phase.trans h.phase,
    h'.result.trans h.result, ?_⟩
  have hrecord := h.record
  have hrecord' := h'.record
  revert hrecord hrecord'
  cases r₁.record <;> cases r₂.record <;> cases r₃.record <;> rintro ⟨⟩ ⟨⟩
  · exact .none
  · exact .some (.trans ‹_› ‹_›)

/-- A raised run has a record exactly when the run it comes from has one. -/
theorem isSome_record {r r' : Run} (h : r.RaisedTo r') : r'.record.isSome = r.record.isSome := by
  have hrecord := h.record
  revert hrecord
  cases r.record <;> cases r'.record <;> rintro ⟨⟩ <;> rfl

/-- The record of a raised run comes from the record before. -/
theorem exists_of_mem {r r' : Run} (h : r.RaisedTo r') {b : Record} (hb : b ∈ r'.record) :
    ∃ a ∈ r.record, a.RaisedTo b := by
  have hrecord := h.record
  rw [Option.mem_def.mp hb] at hrecord
  generalize r.record = x at hrecord
  cases hrecord with
  | some hab => exact ⟨_, rfl, hab⟩

/-- A raised run is about the same file. -/
theorem fileId {r r' : Run} (h : r.RaisedTo r') : r'.fileId = r.fileId := by
  have hrecord := h.record
  unfold Run.fileId
  generalize r.record = x at hrecord
  generalize r'.record = x' at hrecord
  cases hrecord with
  | none => rfl
  | some hab => exact hab.fileId

/-- A raised run makes the same calls. -/
theorem request? {r r' : Run} (h : r.RaisedTo r') (stage : Stage) :
    r'.request? stage = r.request? stage :=
  request?_congr h.file h.fileId stage

/-- Publishing a run raises it. -/
theorem publish (r : Run) : r.RaisedTo r.publish :=
  of_eq rfl rfl rfl rfl rfl

/-- Folding a report in raises a run. -/
theorem merge (r : Run) (report : StatusReport) : r.RaisedTo (r.merge report) := by
  refine ⟨rfl, rfl, rfl, rfl, ?_⟩
  change Option.Rel Record.RaisedTo r.record (r.record.map (·.mergeStatus report))
  cases r.record with
  | none => exact .none
  | some a => exact .some (.mergeStatus a report)

/-- A refresh that comes back raises a run. -/
theorem receive (r : Run) (a : Arrival) : r.RaisedTo (r.receive a) := by
  unfold Run.receive
  split
  · have hpending : r.RaisedTo { r with pending := r.pending.erase a.ticket } :=
      of_eq rfl rfl rfl rfl rfl
    dsimp only
    split
    · split
      · exact hpending.trans (.merge _ _)
      · exact hpending
    · exact hpending
  · exact .refl r

/-- Refreshes that come back raise a run, in whatever order they come. -/
theorem receiveAll (r : Run) (arrivals : List Arrival) : r.RaisedTo (r.receiveAll arrivals) := by
  induction arrivals generalizing r with
  | nil => exact .refl r
  | cons a rest ih => exact (receive r a).trans (ih (r.receive a))

variable {σ : Type} (env : Surroundings σ)

/-- Ordering a refresh raises a run. -/
theorem order (r : Run) (s : σ) : r.RaisedTo (r.order env s).1 := by
  unfold Run.order
  split
  · exact of_eq rfl rfl rfl rfl rfl
  · exact .refl r

/-- What is done at the end of a stage raises a run. -/
theorem finishStage (r : Run) (s : σ) : r.RaisedTo (r.finishStage env s).1 :=
  ((order env r s).trans (receiveAll _ _)).trans (publish _)

/-- Waiting for the refreshes raises a run. -/
theorem settle (r : Run) (s : σ) : r.RaisedTo (r.settle env s).1 := by
  have hreceived := receiveAll r (env.settle r.pending r.published s).1
  have hsettled : (r.receiveAll (env.settle r.pending r.published s).1).RaisedTo
      (r.settle env s).1 := of_eq rfl rfl rfl rfl rfl
  exact hreceived.trans hsettled

end RaisedTo

end Run

end CsvCleaning
