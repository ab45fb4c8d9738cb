import CsvCleaning.Run.Machine

/-!
# Histories of a run

A user stages files, clears, starts, steps and waits for refreshes, in any order. What is to be
seen of it are the values that the operations return, the run after each of them, and the stage
calls, each with the run that waits for its answer. A history collects these for a sequence of
operations; a run is reachable if it occurs in one, between two operations or while a stage call is
on its way.

The stage calls of an operation are read off the run. `perform_logged` shows that they are what the
surroundings are asked, in this order and with these answers.
-/

namespace CsvCleaning

/-- The stage that a call carries out. -/
def Call.stage? : Call → Option Stage
  | .upload _ => some .upload
  | .process _ => some .process
  | .execute _ => some .execute
  | .result _ => some .result
  | .health | .status _ | .script _ | .download _ => none

/-- Why a reply is refused that the service gave with success. -/
def Call.refusal? : (c : Call) → c.Reply → Option Failure
  | .upload _, reply =>
    if Text.allBlank reply.fileId then
      some (.malformedResponse "upload returned an empty file_id")
    else none
  | .process fileId, reply =>
    if reply.fileId ≠ fileId then
      some (.malformedResponse
        ("process response for " ++ reply.fileId ++ " while processing " ++ fileId))
    else none
  | .result fileId, table =>
    if table.fileId ≠ fileId then
      some (.malformedResponse
        ("result for " ++ table.fileId ++ " while fetching " ++ fileId))
    else none
  | .execute _, _ | .health, _ | .status _, _ | .script _, _ | .download _, _ => none

/-- A stage call on its way: the run that waits, the call, and the answer that comes, `none` if it
is not waited for. -/
structure Flight where
  run : Run
  call : Call
  answer : Option (Answer call)

/-- A call and what came of it. -/
abbrev Asked := (c : Call) × Option (Answer c)

/-- Replies to the same call can be compared. -/
instance (c : Call) : DecidableEq c.Reply :=
  match c with
  | .health => inferInstanceAs (DecidableEq HealthReply)
  | .upload _ => inferInstanceAs (DecidableEq UploadReply)
  | .process _ => inferInstanceAs (DecidableEq ProcessReply)
  | .execute _ => inferInstanceAs (DecidableEq ExecuteReply)
  | .status _ => inferInstanceAs (DecidableEq StatusReport)
  | .result _ => inferInstanceAs (DecidableEq ResultTable)
  | .script _ => inferInstanceAs (DecidableEq String)
  | .download _ => inferInstanceAs (DecidableEq Bytes)

namespace Flight

/-- What the surroundings know of a stage call. -/
def asked (f : Flight) : Asked :=
  ⟨f.call, f.answer⟩

/-- The failure that a stage call ends with: the one that was answered, or that of the check which
refuses the reply. -/
def failure? (f : Flight) : Option Failure :=
  match f.answer with
  | none => none
  | some (.error e) => some e
  | some (.ok reply) => f.call.refusal? reply

/-- The service answered with success, and no check refuses the reply. -/
def Accepted (f : Flight) : Prop :=
  ∃ reply, f.answer = some (.ok reply) ∧ f.call.refusal? reply = none

/-- The failure of a stage call does not depend on the run that waits for it. -/
theorem failure?_eq_of_asked {f f' : Flight} (h : f.asked = f'.asked) : f.failure? = f'.failure? := by
  obtain ⟨r, c, answer⟩ := f
  obtain ⟨r', c', answer'⟩ := f'
  cases h
  rcases answer with _ | _ | _ <;> rfl

/-- A stage call that ends with a failure is not accepted. -/
theorem not_accepted_of_failure? {f : Flight} {e : Failure} (h : f.failure? = some e) :
    ¬ f.Accepted := by
  rintro ⟨reply, hanswer, hreply⟩
  rw [failure?, hanswer] at h
  cases hreply.symm.trans h

end Flight

/-- The same surroundings, which also note down what they are asked and what they answer. -/
def Surroundings.logged {σ : Type} (env : Surroundings σ) : Surroundings (σ × List Asked) where
  call c seen t :=
    let (answer, s) := env.call c seen t.1
    (answer, s, t.2 ++ [⟨c, answer⟩])
  order ticket t := (env.order ticket t.1, t.2)
  arrived t :=
    let (arrivals, s) := env.arrived t.1
    (arrivals, s, t.2)
  settle tickets seen t :=
    let (arrivals, s) := env.settle tickets seen t.1
    (arrivals, s, t.2)

/-- Surroundings in which every stage succeeds at once, and in which no refresh comes back. -/
def Surroundings.obliging : Surroundings Unit where
  call c _ _ :=
    match c with
    | .upload file => (some (.ok ⟨file.name, true, "", "a1"⟩), ())
    | .process fileId => (some (.ok ⟨fileId, "", some "script", none⟩), ())
    | .execute _ => (some (.ok ⟨"", 2⟩), ())
    | .result fileId => (some (.ok ⟨fileId, [], [], 0⟩), ())
    | .health => (some (.error (.transport "no answer")), ())
    | .status _ => (some (.error (.transport "no answer")), ())
    | .script _ => (some (.error (.transport "no answer")), ())
    | .download _ => (some (.error (.transport "no answer")), ())
  order _ _ := ()
  arrived _ := ([], ())
  settle _ _ _ := ([], ())

/-- What a user can do with a run. -/
inductive Operation where
  | stageFile (file : SourceFile)
  | clear
  | start
  | step
  | settle
deriving DecidableEq, Repr

/-- What an operation returns. -/
inductive Outcome where
  | staged (reply : Except Failure Unit)
  | cleared
  | started (ending : Ending Phase)
  | stepped (ending : Ending Bool)
  | settled

namespace Run

section Histories

variable {σ : Type} (env : Surroundings σ)

/-- The stage call that a step makes, if it makes one. -/
def flight? (r : Run) (s : σ) : Option Flight :=
  match r.phase.nextStage? with
  | none => none
  | some stage =>
    (r.request? stage).map fun c =>
      ⟨r.enter stage, c, (env.call c (r.enter stage).published s).1⟩

/-- The stage calls that are made until no stage comes next. -/
def flights (r : Run) (s : σ) : List Flight :=
  match _h : r.step env s with
  | (.done true, r', s') => (r.flight? env s).toList ++ flights r' s'
  | _ => (r.flight? env s).toList
termination_by r.phase.stagesAhead
decreasing_by exact stagesAhead_lt_of_step env _h

/-- Carry out an operation. -/
def perform (r : Run) (s : σ) : Operation → Outcome × Run × σ
  | .stageFile file => (.staged (r.stageFile file).2, (r.stageFile file).1, s)
  | .clear => (.cleared, r.clear, s)
  | .start => (.started (r.start env s).1, (r.start env s).2)
  | .step => (.stepped (r.step env s).1, (r.step env s).2)
  | .settle => (.settled, r.settle env s)

/-- The stage calls of an operation. -/
def flightsOf (r : Run) (s : σ) : Operation → List Flight
  | .start => if r.phase.canStart then r.resume.flights env s else []
  | .step => (r.flight? env s).toList
  | .stageFile _ | .clear | .settle => []

end Histories

/-- One operation of a history: its stage calls, what it returns, and the run after it. -/
structure Entry where
  operation : Operation
  flights : List Flight
  outcome : Outcome
  after : Run

/-- What is to be seen of an operation. -/
def entry {σ : Type} (env : Surroundings σ) (r : Run) (s : σ) (op : Operation) : Entry :=
  ⟨op, r.flightsOf env s op, (r.perform env s op).1, (r.perform env s op).2.1⟩

/-- What is to be seen of a sequence of operations. -/
def history {σ : Type} (env : Surroundings σ) : List Operation → Run → σ → List Entry
  | [], _, _ => []
  | op :: ops, r, s =>
    r.entry env s op :: history env ops (r.perform env s op).2.1 (r.perform env s op).2.2

/-- Carry out operations one after the other. -/
def operate {σ : Type} (env : Surroundings σ) : List Operation → Run → σ → Run × σ
  | [], r, s => (r, s)
  | op :: ops, r, s => operate env ops (r.perform env s op).2.1 (r.perform env s op).2.2

/-- The runs that a user's operations lead to, whatever surrounds each of them: between two
operations, and while a stage call is on its way. -/
inductive Reachable : Run → Prop where
  | fresh (refreshing : Bool) : Reachable (.fresh refreshing)
  | perform {σ : Type} (env : Surroundings σ) (s : σ) (op : Operation) {r : Run}
      (h : Reachable r) : Reachable (r.perform env s op).2.1
  | flight {σ : Type} (env : Surroundings σ) (s : σ) (op : Operation) {r : Run} {f : Flight}
      (h : Reachable r) (hf : f ∈ r.flightsOf env s op) : Reachable f.run

/-- Operations lead from a reachable run to a reachable run. -/
theorem Reachable.operate {σ : Type} (env : Surroundings σ) (ops : List Operation) {r : Run}
    (h : Reachable r) (s : σ) : Reachable (operate env ops r s).1 := by
  induction ops generalizing r s with
  | nil => exact h
  | cons op ops ih => exact ih (.perform env s op h) _

/-- The call of a stage carries it out. -/
theorem stage?_of_request? {r : Run} {stage : Stage} {c : Call} (hc : r.request? stage = some c) :
    c.stage? = some stage := by
  cases stage with
  | upload =>
    obtain ⟨file, -, rfl⟩ := Option.map_eq_some_iff.mp hc
    rfl
  | process | execute | result =>
    obtain rfl := Option.some.inj hc
    rfl

section Steps

variable {σ : Type} (env : Surroundings σ)

/-- No stage follows: a step does nothing. -/
theorem step_of_nextStage?_eq_none {r : Run} (h : r.phase.nextStage? = none) (s : σ) :
    r.flight? env s = none ∧ r.step env s = (.done false, r, s) :=
  ⟨by simp [flight?, h], by simp [step, h]⟩

/-- There is no file to upload: a step fails, and nothing changes. -/
theorem step_of_file_eq_none {r : Run} (hphase : r.phase = .idle) (hfile : r.file = none) (s : σ) :
    r.flight? env s = none ∧ r.step env s = (.failed (.validation "no file supplied"), r, s) :=
  ⟨by simp [flight?, hphase, Phase.nextStage?, request?, hfile],
    by simp [step, hphase, Phase.nextStage?, request?, hfile]⟩

/-- The call of a step is given up: the stage has begun, and no more. -/
theorem step_of_call_eq_none {r : Run} {stage : Stage} {c : Call} {s s' : σ}
    (hphase : r.phase = stage.resumePhase) (hc : r.request? stage = some c)
    (hcall : env.call c (r.enter stage).published s = (none, s')) :
    r.flight? env s = some ⟨r.enter stage, c, none⟩ ∧
      r.step env s = (.abandoned, r.enter stage, s') := by
  have hnext := Phase.nextStage?_eq_some_iff.mpr hphase
  exact ⟨by simp [flight?, hnext, hc, hcall], by simp [step, hnext, hc, runStage, hcall]⟩

/-- The call of a step is answered: the stage is brought to its end. -/
theorem step_of_call_eq_some {r : Run} {stage : Stage} {c : Call} {s s' : σ} {answer : Answer c}
    (hphase : r.phase = stage.resumePhase) (hc : r.request? stage = some c)
    (hcall : env.call c (r.enter stage).published s = (some answer, s')) :
    r.flight? env s = some ⟨r.enter stage, c, some answer⟩ ∧
      r.step env s =
        (.done true, ((r.enter stage).conclude stage c answer).finishStage env s') := by
  have hnext := Phase.nextStage?_eq_some_iff.mpr hphase
  exact ⟨by simp [flight?, hnext, hc, hcall], by simp [step, hnext, hc, runStage, hcall]⟩

/-- All that a step can do: nothing from a phase that no stage follows, a failure without a file
to upload, or the call of the next stage, which is given up or answered. -/
theorem step_cases (r : Run) (s : σ) :
    (r.phase.nextStage? = none ∧ r.flight? env s = none ∧ r.step env s = (.done false, r, s)) ∨
    (r.phase = .idle ∧ r.file = none ∧ r.flight? env s = none ∧
      r.step env s = (.failed (.validation "no file supplied"), r, s)) ∨
    ∃ stage c, r.phase = stage.resumePhase ∧ r.request? stage = some c ∧
      ((∃ s', env.call c (r.enter stage).published s = (none, s') ∧
          r.flight? env s = some ⟨r.enter stage, c, none⟩ ∧
          r.step env s = (.abandoned, r.enter stage, s')) ∨
        ∃ answer s', env.call c (r.enter stage).published s = (some answer, s') ∧
          r.flight? env s = some ⟨r.enter stage, c, some answer⟩ ∧
          r.step env s = (.done true, ((r.enter stage).conclude stage c answer).finishStage env s')) := by
  cases hstage : r.phase.nextStage? with
  | none => exact .inl ⟨rfl, step_of_nextStage?_eq_none env hstage s⟩
  | some stage =>
    have hphase := Phase.nextStage?_eq_some_iff.mp hstage
    cases hc : r.request? stage with
    | none =>
      have hupload : stage = .upload := by
        cases stage <;> simp [request?] at hc ⊢
      subst hupload
      have hfile : r.file = none := Option.map_eq_none_iff.mp hc
      exact .inr (.inl ⟨hphase, hfile, step_of_file_eq_none env hphase hfile s⟩)
    | some c =>
      refine .inr (.inr ⟨stage, c, hphase, hc, ?_⟩)
      rcases hcall : env.call c (r.enter stage).published s with ⟨_ | answer, s'⟩
      · exact .inl ⟨s', rfl, step_of_call_eq_none env hphase hc hcall⟩
      · exact .inr ⟨answer, s', rfl, step_of_call_eq_some env hphase hc hcall⟩

/-- Carrying out stages goes on as long as steps carry one out. -/
theorem runStages_eq (r : Run) (s : σ) :
    r.runStages env s =
      match r.step env s with
      | (.done true, r', s') => r'.runStages env s'
      | (.done false, r', s') => (.done r'.phase, r', s')
      | (.failed f, r', s') => (.failed f, r', s')
      | (.abandoned, r', s') => (.abandoned, r', s') := by
  rw [runStages]
  split <;> simp [*]

/-- The stage calls are those of the steps. -/
theorem flights_eq (r : Run) (s : σ) :
    r.flights env s =
      (r.flight? env s).toList ++
        match r.step env s with
        | (.done true, r', s') => r'.flights env s'
        | _ => [] := by
  rw [flights]
  split <;> simp [*]

/-- Starting is carrying out stages from the phase before the failed one. -/
theorem start_eq (r : Run) (s : σ) :
    r.start env s =
      if r.phase.canStart then r.resume.runStages env s else (.done r.phase, r, s) := by
  unfold start
  dsimp only
  split
  · split
    · rename_i hidle
      obtain ⟨-, hstep⟩ := step_of_file_eq_none env hidle.1 hidle.2 s
      rw [runStages_eq, hstep]
    · rfl
  · rfl

end Steps

section Logging

variable {σ : Type} (env : Surroundings σ)

/-- Noting calls down does not change the end of a stage. -/
theorem finishStage_logged (r : Run) (s : σ) (log : List Asked) :
    r.finishStage env.logged (s, log) =
      ((r.finishStage env s).1, (r.finishStage env s).2, log) := by
  unfold finishStage order
  cases r.nextTicket? <;> rfl

/-- A step asks its surroundings for its stage call. -/
theorem step_logged (r : Run) (s : σ) (log : List Asked) :
    r.step env.logged (s, log) =
      ((r.step env s).1, (r.step env s).2.1, (r.step env s).2.2,
        log ++ (r.flight? env s).toList.map Flight.asked) := by
  rcases step_cases env r s with ⟨hnext, hflight, hstep⟩ | ⟨hphase, hfile, hflight, hstep⟩ |
    ⟨stage, c, hphase, hc, ⟨s', hcall, hflight, hstep⟩ | ⟨answer, s', hcall, hflight, hstep⟩⟩
  · obtain ⟨-, hlogged⟩ := step_of_nextStage?_eq_none env.logged hnext (s, log)
    simp [hlogged, hstep, hflight]
  · obtain ⟨-, hlogged⟩ := step_of_file_eq_none env.logged hphase hfile (s, log)
    simp [hlogged, hstep, hflight]
  · have hcall' : env.logged.call c (r.enter stage).published (s, log) =
        (none, s', log ++ [⟨c, none⟩]) := by simp [Surroundings.logged, hcall]
    obtain ⟨-, hlogged⟩ := step_of_call_eq_none env.logged hphase hc hcall'
    simp [hlogged, hstep, hflight, Flight.asked]
  · have hcall' : env.logged.call c (r.enter stage).published (s, log) =
        (some answer, s', log ++ [⟨c, some answer⟩]) := by simp [Surroundings.logged, hcall]
    obtain ⟨-, hlogged⟩ := step_of_call_eq_some env.logged hphase hc hcall'
    simp [hlogged, hstep, hflight, Flight.asked, finishStage_logged]

/-- Carrying out stages asks the surroundings for their calls, in order. -/
theorem runStages_logged (r : Run) (s : σ) (log : List Asked) :
    r.runStages env.logged (s, log) =
      ((r.runStages env s).1, (r.runStages env s).2.1, (r.runStages env s).2.2,
        log ++ (r.flights env s).map Flight.asked) := by
  induction r, s using runStages.induct env generalizing log with
  | case1 r s r' s' hstep ih =>
    rw [runStages_eq, step_logged, runStages_eq env r s, flights_eq, hstep]
    simp [ih]
  | case2 r s r' s' hstep | case3 r s f r' s' hstep | case4 r s r' s' hstep =>
    rw [runStages_eq, step_logged, runStages_eq env r s, flights_eq, hstep]
    simp

/-- The stage calls of an operation are what it asks its surroundings, in this order and with these
answers; nothing else depends on noting them down. -/
theorem perform_logged (r : Run) (s : σ) (log : List Asked) (op : Operation) :
    r.perform env.logged (s, log) op =
      ((r.perform env s op).1, (r.perform env s op).2.1, (r.perform env s op).2.2,
        log ++ (r.flightsOf env s op).map Flight.asked) := by
  cases op with
  | stageFile file | clear => simp [perform, flightsOf]
  | settle => simp [perform, flightsOf, settle, Surroundings.logged]
  | step => simp [perform, flightsOf, step_logged]
  | start =>
    simp only [perform, flightsOf, start_eq]
    split
    · rw [runStages_logged]
    · simp

end Logging

end Run

end CsvCleaning
