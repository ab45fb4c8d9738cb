import CsvCleaning.Run.Surroundings

/-!
# Runs

A run takes one file through upload, processing, execution and the fetching of the result, one
stage after the other. A failed stage leaves everything obtained so far, and the run can be resumed
at it. After each stage a status refresh may be ordered; what comes back is folded into the record
and can raise its flags, nothing more. Observers see what was last published: at the beginning of
each stage and at the end of each operation.

Clearing a run begins a new one with a number of its own, and the refreshes that were ordered
before no longer count.
-/

namespace CsvCleaning

/-- A run. -/
structure Run where
  /-- Whether status refreshes are ordered. -/
  refreshing : Bool
  /-- The number of the run; clearing draws the next. -/
  id : Nat
  file : Option SourceFile
  phase : Phase
  record : Option Record
  result : Option ResultTable
  /-- The refreshes that were ordered for this run and have not been folded in. -/
  pending : List Ticket
  /-- The number of refreshes ordered so far, over all runs. -/
  ordered : Nat
  published : Snapshot
deriving DecidableEq

/-- How an operation ended. -/
inductive Ending (α : Type) where
  | done (a : α)
  | failed (f : Failure)
  /-- The operation was given up while a stage call was on its way. -/
  | abandoned
deriving DecidableEq, Repr

namespace Run

/-- A run that has not begun. -/
def fresh (refreshing : Bool) : Run :=
  { refreshing
    id := 0
    file := none
    phase := .idle
    record := none
    result := none
    pending := []
    ordered := 0
    published := .idle }

/-- What there is to be seen of a run. -/
def snapshot (r : Run) : Snapshot :=
  { phase := r.phase
    record := r.record
    fileName := r.file.map (·.name)
    resultRows := r.result.map (·.rows.length) }

/-- Show observers the run as it is. -/
def publish (r : Run) : Run :=
  { r with published := r.snapshot }

/-- Discard everything and begin a new run. -/
def clear (r : Run) : Run :=
  { r with
    id := r.id + 1
    file := none
    phase := .idle
    record := none
    result := none
    pending := [] }.publish

/-- Take a file for the next upload. A finished or failed run is discarded first; during a stage
the file is refused. -/
def stageFile (r : Run) (file : SourceFile) : Run × Except Failure Unit :=
  if r.phase.isBusy then
    (r, .error (.invalidTransition ("cannot stage a file while " ++ r.phase.text)))
  else
    let cleared := if r.phase ≠ .idle ∨ r.record.isSome then r.clear else r
    ({ cleared with file := some file }.publish, .ok ())

/-- The file id of the record, empty without one. -/
def fileId (r : Run) : String :=
  (r.record.map (·.fileId)).getD ""

/-- The call of a stage; an upload needs a file. -/
def request? (r : Run) : Stage → Option Call
  | .upload => r.file.map .upload
  | .process => some (.process r.fileId)
  | .execute => some (.execute r.fileId)
  | .result => some (.result r.fileId)

/-- The record, or a failure without one. -/
def activeRecord (r : Run) : Except Failure Record :=
  match r.record with
  | some record => .ok record
  | none => .error (.invalidTransition "no active record")

/-- Take the reply to a stage call: check that it is about the right file, note it in the record
and go on to the next phase. -/
def accept (r : Run) : (c : Call) → c.Reply → Except Failure Run
  | .upload file, reply => do
    let record ← Record.uploaded r.id reply.fileId file.name
    return { r with record := some record, phase := .uploaded }
  | .process fileId, reply => do
    if reply.fileId ≠ fileId then
      throw (.malformedResponse
        ("process response for " ++ reply.fileId ++ " while processing " ++ fileId))
    let record ← r.activeRecord
    let record ← record.markProcessed reply.script reply.dataSummary
    return { r with record := some record, phase := .processed }
  | .execute _, reply => do
    let record ← r.activeRecord
    let record ← record.markExecuted reply.processedRows
    return { r with record := some record, phase := .executed }
  | .result fileId, table => do
    if table.fileId ≠ fileId then
      throw (.malformedResponse
        ("result for " ++ table.fileId ++ " while fetching " ++ fileId))
    let record ← r.activeRecord
    let record ← record.markReady
    return { r with record := some record, result := some table, phase := .ready, file := none }
  | .health, _ | .status _, _ | .script _, _ | .download _, _ => return r

/-- Note that a stage failed; everything else stays. -/
def fail (r : Run) (stage : Stage) (f : Failure) : Run :=
  { r with
    phase := .failed stage f.userMessage
    record := r.record.map (·.setError f.userMessage) }

/-- Take the answer to a stage call. -/
def conclude (r : Run) (stage : Stage) (c : Call) (answer : Answer c) : Run :=
  match answer >>= r.accept c with
  | .ok r' => r'
  | .error f => r.fail stage f

/-- Begin a stage, for all to see. -/
def enter (r : Run) (stage : Stage) : Run :=
  { r with phase := stage.busyPhase }.publish

/-- The ticket of the next refresh, if one is to be ordered. -/
def nextTicket? (r : Run) : Option Ticket :=
  if r.refreshing then r.record.map fun record => ⟨r.ordered, r.id, record.fileId⟩ else none

/-- Note that a refresh was ordered. -/
def expect (r : Run) (ticket : Ticket) : Run :=
  { r with pending := r.pending ++ [ticket], ordered := r.ordered + 1 }

/-- Fold a report into the record. -/
def merge (r : Run) (report : StatusReport) : Run :=
  { r with record := r.record.map (·.mergeStatus report) }

/-- Take a refresh that came back. One that is not expected, or is of another run, is dropped. -/
def receive (r : Run) (a : Arrival) : Run :=
  if a.ticket ∈ r.pending then
    let r := { r with pending := r.pending.erase a.ticket }
    match a.report with
    | some report => if a.ticket.run = r.id then r.merge report else r
    | none => r
  else r

/-- Take refreshes in the order in which they came back. -/
def receiveAll (r : Run) (arrivals : List Arrival) : Run :=
  arrivals.foldl receive r

/-- Publishing changes nothing but what observers see. -/
@[simp] theorem phase_publish (r : Run) : r.publish.phase = r.phase := rfl

/-- A refresh that comes back leaves the phase alone. -/
@[simp] theorem phase_receive (r : Run) (a : Arrival) : (r.receive a).phase = r.phase := by
  unfold receive
  split
  · dsimp only
    split
    · split <;> rfl
    · rfl
  · rfl

/-- Refreshes that come back leave the phase alone. -/
@[simp] theorem phase_receiveAll (r : Run) (arrivals : List Arrival) :
    (r.receiveAll arrivals).phase = r.phase := by
  induction arrivals generalizing r with
  | nil => rfl
  | cons a rest ih =>
    change ((r.receive a).receiveAll rest).phase = r.phase
    rw [ih, phase_receive]

/-- Beginning a stage does not change what its call is about. -/
@[simp] theorem request?_enter (r : Run) (stage : Stage) : (r.enter stage).request? = r.request? :=
  rfl

/-- An accepted reply takes the run to the phase after the stage. -/
theorem phase_accept {r r' : Run} {stage : Stage} {c : Call} (hc : r.request? stage = some c)
    {reply : c.Reply} (h : r.accept c reply = .ok r') : r'.phase = stage.donePhase := by
  cases stage with
  | upload =>
    obtain ⟨file, -, rfl⟩ := Option.map_eq_some_iff.mp hc
    obtain ⟨record, -, h⟩ := Failure.bind_eq_ok_iff.mp h
    exact Except.ok.inj h ▸ rfl
  | process =>
    obtain rfl := Option.some.inj hc
    simp only [accept] at h
    split at h
    · obtain ⟨_, h, -⟩ := Failure.bind_eq_ok_iff.mp h
      cases h
    · obtain ⟨_, -, h⟩ := Failure.bind_eq_ok_iff.mp h
      obtain ⟨record, -, h⟩ := Failure.bind_eq_ok_iff.mp h
      exact Except.ok.inj h ▸ rfl
  | execute =>
    obtain rfl := Option.some.inj hc
    obtain ⟨_, -, h⟩ := Failure.bind_eq_ok_iff.mp h
    obtain ⟨record, -, h⟩ := Failure.bind_eq_ok_iff.mp h
    exact Except.ok.inj h ▸ rfl
  | result =>
    obtain rfl := Option.some.inj hc
    simp only [accept] at h
    split at h
    · obtain ⟨_, h, -⟩ := Failure.bind_eq_ok_iff.mp h
      cases h
    · obtain ⟨_, -, h⟩ := Failure.bind_eq_ok_iff.mp h
      obtain ⟨record, -, h⟩ := Failure.bind_eq_ok_iff.mp h
      exact Except.ok.inj h ▸ rfl

/-- The answer to a stage call takes the run to the phase after the stage, or to its failure. -/
theorem phase_conclude {r : Run} {stage : Stage} {c : Call} (hc : r.request? stage = some c)
    (answer : Answer c) :
    (r.conclude stage c answer).phase = stage.donePhase ∨
      ∃ message, (r.conclude stage c answer).phase = .failed stage message := by
  unfold conclude
  split
  · rename_i r' h
    left
    cases answer with
    | error f => simp [bind, Except.bind] at h
    | ok reply => exact phase_accept hc h
  · exact .inr ⟨_, rfl⟩

section Operations

variable {σ : Type} (env : Surroundings σ)

/-- Order a refresh of a run with a record. -/
def order (r : Run) (s : σ) : Run × σ :=
  match r.nextTicket? with
  | some ticket => (r.expect ticket, env.order ticket s)
  | none => (r, s)

/-- End a stage: order a refresh, fold in those that have come back, and publish. -/
def finishStage (r : Run) (s : σ) : Run × σ :=
  let (r, s) := r.order env s
  let (arrivals, s) := env.arrived s
  ((r.receiveAll arrivals).publish, s)

/-- The end of a stage leaves the phase alone. -/
@[simp] theorem phase_finishStage (r : Run) (s : σ) : (r.finishStage env s).1.phase = r.phase := by
  unfold finishStage order
  cases r.nextTicket? <;> simp [expect]

/-- Carry out one stage from its beginning. -/
def runStage (r : Run) (stage : Stage) (c : Call) (s : σ) : Ending Bool × Run × σ :=
  let r := r.enter stage
  match env.call c r.published s with
  | (none, s) => (.abandoned, r, s)
  | (some answer, s) =>
    let (r, s) := (r.conclude stage c answer).finishStage env s
    (.done true, r, s)

/-- Carry out the stage that comes next, if there is one; say whether there was. -/
def step (r : Run) (s : σ) : Ending Bool × Run × σ :=
  match r.phase.nextStage? with
  | none => (.done false, r, s)
  | some stage =>
    match r.request? stage with
    | none => (.failed (.validation "no file supplied"), r, s)
    | some c => r.runStage env stage c s

/-- A stage that was carried out leaves fewer stages ahead. -/
theorem stagesAhead_lt_of_step {r r' : Run} {s s' : σ} (h : r.step env s = (.done true, r', s')) :
    r'.phase.stagesAhead < r.phase.stagesAhead := by
  unfold step at h
  split at h
  · simp at h
  · rename_i stage hstage
    split at h
    · simp at h
    · rename_i c hc
      refine Phase.stagesAhead_lt_of_nextStage? hstage ?_
      unfold runStage at h
      dsimp only at h
      split at h
      · simp at h
      · rename_i answer s₁ _
        simp only [Prod.mk.injEq] at h
        have hphase : r'.phase = ((r.enter stage).conclude stage c answer).phase := by
          rw [← h.2.1, phase_finishStage]
        rw [hphase]
        exact phase_conclude (by rwa [request?_enter]) answer

/-- Carry out stages until none comes next. -/
def runStages (r : Run) (s : σ) : Ending Phase × Run × σ :=
  match _h : r.step env s with
  | (.done true, r', s') => runStages r' s'
  | (.done false, r', s') => (.done r'.phase, r', s')
  | (.failed f, r', s') => (.failed f, r', s')
  | (.abandoned, r', s') => (.abandoned, r', s')
termination_by r.phase.stagesAhead
decreasing_by exact stagesAhead_lt_of_step env _h

/-- Return from a failed stage to the phase before it. -/
def resume (r : Run) : Run :=
  match r.phase.failedStage? with
  | some stage =>
    { r with phase := stage.resumePhase, record := r.record.map Record.clearError }
  | none => r

/-- Resuming a failed run returns to the phase before the stage, and forgets the message. -/
theorem resume_of_failed {r : Run} {stage : Stage} {message : String}
    (h : r.phase = .failed stage message) :
    r.resume =
      { r with phase := stage.resumePhase, record := r.record.map Record.clearError } := by
  simp [resume, h, Phase.failedStage?]

/-- Resuming leaves a run alone that has not failed. -/
theorem resume_of_failedStage?_eq_none {r : Run} (h : r.phase.failedStage? = none) :
    r.resume = r := by
  simp [resume, h]

/-- Carry out the remaining stages, up to the last or the first that fails. A run that neither
rests at its beginning nor has failed is left alone. -/
def start (r : Run) (s : σ) : Ending Phase × Run × σ :=
  if r.phase.canStart then
    let r := r.resume
    if r.phase = .idle ∧ r.file = none then
      (.failed (.validation "no file supplied"), r, s)
    else r.runStages env s
  else (.done r.phase, r, s)

/-- Wait for all refreshes that are expected and fold them in. -/
def settle (r : Run) (s : σ) : Run × σ :=
  let (arrivals, s) := env.settle r.pending r.published s
  ({ r.receiveAll arrivals with pending := [] }.publish, s)

end Operations

/-- A run that has not begun has published what there is to be seen. -/
theorem published_fresh (refreshing : Bool) : (fresh refreshing).published = (fresh refreshing).snapshot :=
  rfl

/-- What is published is what there is to be seen. -/
theorem published_publish (r : Run) : r.publish.published = r.publish.snapshot :=
  rfl

/-- A cleared run has published what there is to be seen. -/
theorem published_clear (r : Run) : r.clear.published = r.clear.snapshot :=
  rfl

end Run

end CsvCleaning
