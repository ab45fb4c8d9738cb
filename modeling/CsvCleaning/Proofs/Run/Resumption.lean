import CsvCleaning.Proofs.Run.Reports
import CsvCleaning.Proofs.Run.Soundness

/-!
# What a failed stage leaves

A stage fails if its call is answered with a failure, or if a check refuses the reply. The run then
has failed at this stage, with the message of the failure, and keeps everything that it held: its
number, its file and its result are the same, and its record is the same but for the message and
for flags which refreshes have raised. Starting again therefore begins with the same call.
-/

namespace CsvCleaning

/-- The second record is the first one with the message of a failure, perhaps with more flags. -/
structure Record.FailedWith (message : String) (a b : Record) : Prop where
  fileId : b.fileId = a.fileId
  filename : b.filename = a.filename
  script : b.script = a.script
  dataSummary : b.dataSummary = a.dataSummary
  processedRowCount : b.processedRowCount = a.processedRowCount
  lastError : b.lastError = some message
  flags : a.flags ≤ b.flags

/-- Reports that are folded in after a failure raise flags and change nothing else. -/
theorem Record.failedWith_foldl (message : String) (a : Record) (reports : List StatusReport) :
    a.FailedWith message (reports.foldl Record.mergeStatus (a.setError message)) := by
  have hraised := Record.RaisedTo.foldl_mergeStatus (a.setError message) reports
  exact ⟨hraised.fileId, hraised.filename, hraised.script, hraised.dataSummary,
    hraised.processedRowCount, hraised.lastError, hraised.flags⟩

namespace Run

/-- What a run that has failed at a stage keeps of the run before, with the reports of refreshes
which have come back in the meantime. -/
structure FailedFrom (r r' : Run) (stage : Stage) (message : String)
    (reports : List StatusReport) : Prop where
  phase : r'.phase = .failed stage message
  id : r'.id = r.id
  file : r'.file = r.file
  result : r'.result = r.result
  record : r'.record = r.record.map fun a => reports.foldl Record.mergeStatus (a.setError message)
  kept : Option.Rel (Record.FailedWith message) r.record r'.record

/-- Changing the record without its file id leaves the file id alone. -/
theorem fileId_of_record_eq_map {r r' : Run} {change : Record → Record}
    (hrecord : r'.record = r.record.map change) (hchange : ∀ a, (change a).fileId = a.fileId) :
    r'.fileId = r.fileId := by
  unfold fileId
  rw [hrecord]
  cases r.record with
  | none => rfl
  | some a => exact hchange a

/-- Resuming a failed run leaves alone what calls are about. -/
theorem request?_resume {r : Run} {stage : Stage} {message : String}
    (h : r.phase = .failed stage message) (next : Stage) :
    r.resume.request? next = r.request? next := by
  have hrecord : r.resume.record = r.record.map Record.clearError := by rw [resume_of_failed h]
  have hfile : r.resume.file = r.file := by rw [resume_of_failed h]
  exact request?_congr hfile (fileId_of_record_eq_map hrecord fun _ => rfl) next

section Steps

variable {σ : Type} (env : Surroundings σ)

/-- The end of a stage folds reports into the record that have come back under the number of the
run. -/
theorem exists_record_finishStage (r : Run) (s : σ) :
    ∃ (s' : σ) (reports : List StatusReport), (∀ report ∈ reports, ∃ a ∈ (env.arrived s').1,
        a.ticket.run = r.id ∧ a.report = some report) ∧
      (r.finishStage env s).1.record =
        r.record.map fun a => reports.foldl Record.mergeStatus a := by
  obtain ⟨hrecord, hid⟩ : (r.order env s).1.record = r.record ∧ (r.order env s).1.id = r.id := by
    unfold order
    cases r.nextTicket? <;> exact ⟨rfl, rfl⟩
  refine ⟨(r.order env s).2, (r.order env s).1.taken (env.arrived (r.order env s).2).1, ?_, ?_⟩
  · intro report hreport
    rw [← hid]
    exact exists_of_mem_taken hreport
  · rw [← hrecord]
    exact record_receiveAll _ _

/-- In a sound run, a step whose call ends with a failure fails the stage. -/
theorem Sound.step_of_failure? {r : Run} (h : r.Sound) {s : σ} {f : Flight}
    (hflight : r.flight? env s = some f) {e : Failure} (he : f.failure? = some e) :
    ∃ stage s', r.phase = stage.resumePhase ∧ r.request? stage = some f.call ∧
      r.step env s = (.done true, ((r.enter stage).fail stage e).finishStage env s') := by
  rcases step_cases env r s with ⟨-, hnone, -⟩ | ⟨-, -, hnone, -⟩ |
    ⟨stage, c, hphase, hc, ⟨s', -, hsome, -⟩ | ⟨answer, s', -, hsome, hstep⟩⟩
  · cases hnone.symm.trans hflight
  · cases hnone.symm.trans hflight
  · obtain rfl := Option.some.inj (hsome.symm.trans hflight)
    cases he
  · obtain rfl := Option.some.inj (hsome.symm.trans hflight)
    rcases (h.enter hphase hc).conclude_cases rfl hc answer with
      ⟨e', hfailure, hconclude⟩ | ⟨reply, hanswer, hreply, -⟩
    · obtain rfl : e = e' := Option.some.inj (he.symm.trans hfailure)
      rw [hconclude] at hstep
      exact ⟨stage, s', hphase, hc, hstep⟩
    · exact absurd ⟨reply, congrArg some hanswer, hreply⟩ (Flight.not_accepted_of_failure? he)

/-- A failed stage that is brought to its end leaves everything else of the run. -/
theorem failedFrom_finishStage (r : Run) (stage : Stage) (e : Failure) (s : σ) :
    ∃ (s' : σ) (reports : List StatusReport), (∀ report ∈ reports, ∃ a ∈ (env.arrived s').1,
        a.ticket.run = r.id ∧ a.report = some report) ∧
      r.FailedFrom (((r.enter stage).fail stage e).finishStage env s).1 stage e.userMessage
        reports := by
  have hraised := RaisedTo.finishStage env ((r.enter stage).fail stage e) s
  obtain ⟨s', reports, hreports, hrecord⟩ :=
    exists_record_finishStage env ((r.enter stage).fail stage e) s
  have hmap : (((r.enter stage).fail stage e).finishStage env s).1.record =
      r.record.map fun a => reports.foldl Record.mergeStatus (a.setError e.userMessage) := by
    rw [hrecord]
    exact Option.map_map _ _ _
  refine ⟨s', reports, hreports, hraised.phase, hraised.id, hraised.file, hraised.result, hmap, ?_⟩
  rw [hmap]
  cases r.record with
  | none => exact .none
  | some a => exact .some (Record.failedWith_foldl e.userMessage a reports)

/-- A run that has failed at a stage starts again with the call of this stage. -/
theorem head?_flightsOf_start {r : Run} {stage : Stage} {message : String}
    (hphase : r.phase = .failed stage message) {c : Call} (hc : r.request? stage = some c) (s : σ) :
    (r.flightsOf env s .start).head?.map (·.call) = some c := by
  have hstart : r.phase.canStart = true := by rw [hphase]; rfl
  have hresume : r.resume.phase = stage.resumePhase := by rw [resume_of_failed hphase]
  have hc' : r.resume.request? stage = some c := (request?_resume hphase stage).trans hc
  rw [flightsOf, hstart, if_pos rfl, flights_eq]
  rcases hcall : env.call c (r.resume.enter stage).published s with ⟨_ | answer, s'⟩
  · rw [(step_of_call_eq_none env hresume hc' hcall).1]
    rfl
  · rw [(step_of_call_eq_some env hresume hc' hcall).1]
    rfl

/-- A failed stage leaves the run as it was, and starting again makes the same call first.

A step of a reachable run fails if its call ends with a failure: one that was answered, or that of
the check which refuses the reply. Whatever else the surroundings do, the run then has failed at
the stage of the call with the message for the user; number, file and result are the same, and so
is the record but for the message and for flags raised by reports of refreshes that have come back.
An upload that fails leaves no record. However many refreshes come back until the run is started
again, and whatever surrounds it then, its first call is the one that failed. -/
theorem failed_stage_resumes {r : Run} (hr : Reachable r) {s : σ} {f : Flight}
    (hflight : r.flight? env s = some f) {e : Failure} (he : f.failure? = some e) :
    ∃ stage r' s', f.call.stage? = some stage ∧ r.step env s = (.done true, r', s') ∧
      (∃ (s'' : σ) (reports : List StatusReport), (∀ report ∈ reports, ∃ a ∈ (env.arrived s'').1,
          a.ticket.run = r.id ∧ a.report = some report) ∧
        r.FailedFrom r' stage e.userMessage reports) ∧
      (stage = .upload → r'.record = none) ∧
      ∀ {τ : Type} (env' : Surroundings τ) (t : τ) (r'' : Run), r'.RaisedTo r'' →
        (r''.flightsOf env' t .start).head?.map (·.call) = some f.call := by
  have h := hr.sound
  obtain ⟨stage, s₁, hphase, hc, hstep⟩ := h.step_of_failure? env hflight he
  obtain ⟨s₂, reports, hreports, hfailed⟩ := failedFrom_finishStage env r stage e s₁
  refine ⟨stage, _, _, stage?_of_request? hc, hstep, ⟨s₂, reports, hreports, hfailed⟩, ?_, ?_⟩
  · rintro rfl
    have hnone : r.record = none := h.record_eq_none (by rw [hphase]; rfl)
    refine hfailed.record.trans ?_
    rw [hnone]
    rfl
  · intro τ env' t r'' hraised
    have hfileId := fileId_of_record_eq_map hfailed.record fun a =>
      (Record.RaisedTo.foldl_mergeStatus (a.setError e.userMessage) reports).fileId
    have hc' : r''.request? stage = some f.call :=
      calc
        r''.request? stage = _ := request?_congr hraised.file hraised.fileId stage
        _ = r.request? stage := request?_congr hfailed.file hfileId stage
        _ = some f.call := hc
    exact head?_flightsOf_start env' (hraised.phase.trans hfailed.phase) hc' t

end Steps

/-- An execution that the service refuses leaves the uploaded and processed file, with the flags
that refreshes report meanwhile. -/
theorem failed_stage_resumes_at_execution :
    let reported : StatusReport := ⟨"a1", ⟨true, true, true, false⟩⟩
    let env := Surroundings.prompt (answersBut .execute (.server 500 "script failed"))
      fun _ => some reported
    let r := (operate env [.stageFile (.ofBytes "a.csv" []), .step, .step] (fresh true) []).1
    let f : Flight := ⟨r.enter .execute, .execute "a1", some (.error (.server 500 "script failed"))⟩
    Reachable r ∧ r.flight? env [] = some f ∧ f.failure? = some (.server 500 "script failed") ∧
      ∃ stage r' s', f.call.stage? = some stage ∧ r.step env [] = (.done true, r', s') ∧
        (∃ (s'' : List Ticket) (reports : List StatusReport),
          (∀ report ∈ reports, ∃ a ∈ (env.arrived s'').1,
            a.ticket.run = r.id ∧ a.report = some report) ∧
          r.FailedFrom r' stage "script failed" reports) ∧
        (stage = .upload → r'.record = none) ∧
        ∀ {τ : Type} (env' : Surroundings τ) (t : τ) (r'' : Run), r'.RaisedTo r'' →
          (r''.flightsOf env' t .start).head?.map (·.call) = some f.call := by
  intro reported env r f
  have hr : Reachable r := .operate env _ (.fresh true) []
  have hphase : r.phase = Stage.execute.resumePhase := by decide +kernel
  have hc : r.request? .execute = some (.execute "a1") := by decide +kernel
  have hflight := (step_of_call_eq_some env hphase hc (s := []) rfl).1
  exact ⟨hr, hflight, rfl, failed_stage_resumes env hr hflight rfl⟩

end Run

end CsvCleaning
