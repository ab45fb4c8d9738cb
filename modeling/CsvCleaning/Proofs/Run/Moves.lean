import CsvCleaning.Proofs.Run.History
import CsvCleaning.Proofs.Run.Raising

/-!
# Operations as paths of moves

A move is one thing that happens to a run: a file is staged, the run is cleared or resumed, a stage
call is given up or answered, or refreshes raise the run. Every operation is a path of moves, and
the files staged and the calls made along the path are the events of the operation. What every move
keeps therefore holds of every reachable run.
-/

namespace CsvCleaning

/-- What counts for the order of stage calls. -/
inductive Event where
  | staged (file : SourceFile)
  | called (flight : Flight)

namespace Run

/-- The events of an operation: the file that was taken, and the stage calls. -/
def Entry.events (e : Entry) : List Event :=
  (match e.operation, e.outcome with
    | .stageFile file, .staged (.ok _) => [.staged file]
    | _, _ => []) ++ e.flights.map .called

/-- One thing that happens to a run, with its events. -/
inductive Move : Run → List Event → Run → Prop where
  | stage {r : Run} (file : SourceFile) (h : r.phase.isBusy = false) :
      Move r [.staged file] (r.stageFile file).1
  | clear (r : Run) : Move r [] r.clear
  | resume {r : Run} {stage : Stage} {message : String} (h : r.phase = .failed stage message) :
      Move r [] r.resume
  | abandon {r : Run} {stage : Stage} {c : Call} (hphase : r.phase = stage.resumePhase)
      (hc : r.request? stage = some c) :
      Move r [.called ⟨r.enter stage, c, none⟩] (r.enter stage)
  | answer {r : Run} {stage : Stage} {c : Call} (hphase : r.phase = stage.resumePhase)
      (hc : r.request? stage = some c) (answer : Answer c) :
      Move r [.called ⟨r.enter stage, c, some answer⟩] ((r.enter stage).conclude stage c answer)
  | refresh {r r' : Run} (h : r.RaisedTo r') : Move r [] r'

/-- Moves in a row, with their events. -/
inductive Path : Run → List Event → Run → Prop where
  | refl (r : Run) : Path r [] r
  | tail {r₁ r₂ r₃ : Run} {es es' : List Event} (h : Path r₁ es r₂) (m : Move r₂ es' r₃) :
      Path r₁ (es ++ es') r₃

namespace Path

/-- A single move is a path. -/
theorem single {r r' : Run} {es : List Event} (m : Move r es r') : Path r es r' :=
  (Path.refl r).tail m

/-- Paths in a row are a path. -/
theorem append {r₁ r₂ r₃ : Run} {es es' : List Event} (h : Path r₁ es r₂) (h' : Path r₂ es' r₃) :
    Path r₁ (es ++ es') r₃ := by
  induction h' with
  | refl => simpa using h
  | tail _ m ih =>
    rw [← List.append_assoc]
    exact ih.tail m

section Operations

variable {σ : Type} (env : Surroundings σ)

/-- A step is a path along its stage call. -/
theorem step (r : Run) (s : σ) :
    Path r ((r.flight? env s).toList.map .called) (r.step env s).2.1 := by
  rcases step_cases env r s with ⟨-, hflight, hstep⟩ | ⟨-, -, hflight, hstep⟩ |
    ⟨stage, c, hphase, hc, ⟨s', -, hflight, hstep⟩ | ⟨answer, s', -, hflight, hstep⟩⟩
  · rw [hflight, hstep]
    exact .refl r
  · rw [hflight, hstep]
    exact .refl r
  · rw [hflight, hstep]
    exact single (.abandon hphase hc)
  · rw [hflight, hstep]
    exact (single (.answer hphase hc answer)).tail (.refresh (.finishStage env _ s'))

/-- Carrying out stages is a path along their calls. -/
theorem runStages (r : Run) (s : σ) :
    Path r ((r.flights env s).map .called) (r.runStages env s).2.1 := by
  induction r, s using runStages.induct env with
  | case1 r s r' s' hstep ih =>
    have hfirst := step env r s
    rw [hstep] at hfirst
    rw [runStages_eq, flights_eq, hstep, List.map_append]
    exact hfirst.append ih
  | case2 r s r' s' hstep | case3 r s f r' s' hstep | case4 r s r' s' hstep =>
    have hfirst := step env r s
    rw [hstep] at hfirst
    rw [runStages_eq, flights_eq, hstep, List.append_nil]
    exact hfirst

/-- A run that can start resumes by a path without events. -/
theorem resume (r : Run) : Path r [] r.resume := by
  cases hphase : r.phase with
  | failed stage message => exact single (.resume hphase)
  | _ =>
    rw [resume_of_failedStage?_eq_none (by rw [hphase]; rfl)]
    exact .refl r

/-- Every operation is a path along its events. -/
theorem perform (r : Run) (s : σ) (op : Operation) :
    Path r (r.entry env s op).events (r.perform env s op).2.1 := by
  cases op with
  | stageFile file =>
    cases hbusy : r.phase.isBusy with
    | false =>
      have hreply : (r.stageFile file).2 = .ok () := by simp [Run.stageFile, hbusy]
      simp only [entry, Entry.events, Run.perform, flightsOf, hreply]
      exact single (.stage file hbusy)
    | true =>
      simp only [entry, Entry.events, Run.perform, flightsOf, Run.stageFile, hbusy, if_true]
      exact .refl r
  | clear => exact single (.clear r)
  | settle => exact single (.refresh (.settle env r s))
  | step => exact step env r s
  | start =>
    simp only [entry, Entry.events, Run.perform, flightsOf, start_eq]
    split
    · exact (resume r).append (runStages env r.resume s)
    · exact .refl r

/-- Operations lead to a run by a path along the events of their history. -/
theorem operate (ops : List Operation) (r : Run) (s : σ) :
    Path r ((Run.history env ops r s).flatMap (·.events)) (Run.operate env ops r s).1 := by
  induction ops generalizing r s with
  | nil => exact .refl r
  | cons op ops ih => exact (perform env r s op).append (ih _ _)

/-- A sequence of operations is a path along the events of its history. -/
theorem history (ops : List Operation) (r : Run) (s : σ) :
    ∃ r', Path r ((Run.history env ops r s).flatMap (·.events)) r' :=
  ⟨_, operate env ops r s⟩

end Operations

end Path

end Run

end CsvCleaning
