import CsvCleaning.Command.Execution
import CsvCleaning.Proofs.Run.Retrying

/-!
# Taking a file through a run

The command that takes a file through a run stages it, starts the run and starts it again after each
failed stage as often as it is told to, and waits for the refreshes in the end. A gateway answers
every call at once, so the run becomes ready or fails as often as it may; the command then shows the
table of the run, or complains about its last failure.
-/

namespace CsvCleaning

namespace Workplace

open Run (operate history attempts Persisted)

/-- The operations that take a file through a run, with so many starts. -/
def operations (file : SourceFile) (starts : Nat) : List Operation :=
  .stageFile file :: (.replicate starts .start ++ [.settle])

/-- A new run that has taken a file for its upload. -/
def begun (settings : Settings) (file : SourceFile) : Run :=
  ((Run.fresh settings.run.statusRefresh).stageFile file).1

section Carrying

variable {σ : Type} (env : Surroundings σ) (settings : Settings) (file : SourceFile) (retries : Nat)
  (s : σ)

/-- Taking a file through a run is persisting with a new run and waiting for its refreshes. -/
theorem carryOut_eq_settle :
    carryOut env settings file retries s =
      (((begun settings file).persist env retries s).1,
        ((begun settings file).persist env retries s).2.1.settle env
          ((begun settings file).persist env retries s).2.2) :=
  rfl

/-- The operations lead to the run that is persisted with, after its refreshes. -/
theorem operate_operations :
    operate env (operations file (attempts env retries (begun settings file) s).length)
        (.fresh settings.run.statusRefresh) s =
      ((begun settings file).persist env retries s).2.1.settle env
        ((begun settings file).persist env retries s).2.2 := by
  change operate env (_ ++ _) (begun settings file) s = _
  rw [Run.operate_append, ← Run.persist_eq_operate]
  rfl

/-- Taking a file through a run asks the surroundings for the stage calls of its starts, in this
order, and nothing else depends on noting them down. -/
theorem carryOut_logged (log : List Asked) :
    carryOut env.logged settings file retries (s, log) =
      ((carryOut env settings file retries s).1, (carryOut env settings file retries s).2.1,
        (carryOut env settings file retries s).2.2,
        log ++ (attempts env retries (begun settings file) s).flatten.map Flight.asked) := by
  rw [carryOut_eq_settle, carryOut_eq_settle, Run.persist_logged]
  rfl

/-- If calls are answered, a file is taken through a run until it is ready or has failed as often as
it may. -/
theorem persisted_of_answers (hanswers : ∀ c seen s, (env.call c seen s).1.isSome) :
    (carryOut env settings file retries s).1 =
        .done (carryOut env settings file retries s).2.1.phase ∧
      Persisted retries (attempts env retries (begun settings file) s)
        (carryOut env settings file retries s).2.1 := by
  have hreachable : Run.Reachable (begun settings file) :=
    .perform env s (.stageFile file) (.fresh settings.run.statusRefresh)
  have htried := hreachable.sound.tried_persist env hanswers
    (.inl ⟨rfl, Option.some_ne_none file, rfl⟩) retries s
  have hsound : ((begun settings file).persist env retries s).2.1.Sound := by
    rw [Run.persist_eq_operate]
    exact (hreachable.operate env _ s).sound
  have hraised := Run.RaisedTo.settle env ((begun settings file).persist env retries s).2.1
    ((begun settings file).persist env retries s).2.2
  rw [carryOut_eq_settle]
  refine ⟨htried.returned.trans (congrArg Ending.done hraised.phase.symm), ?_⟩
  exact (htried.persisted rfl rfl hsound (Run.length_attempts_le env retries _ s)).raise hraised

end Carrying

/-- What the command tells of a run that it has persisted with. -/
structure Told {ν : Type} (settings : Settings) (color : Bool) (file : SourceFile)
    (search : Option String) (page : Nat) (download : Bool) (r : Run) (effect : Effect ν) :
    Prop where
  failed : ∀ stage message, r.phase = .failed stage message →
    effect.complaint = some ⟨"Pipeline failed at " ++ stage.name ++ " stage: " ++ message, []⟩
  /-- The table of a run that is ready is shown after the progress and the rows, and before what is
  said about saving it. -/
  shown : r.phase = .ready → ∀ table, r.result = some table → ∃ rows saved,
    effect.output =
      lineOf ((SelectionOutcome.accepted file).notice.format color) ++
        (noticeLine .info color "Starting the processing pipeline" ++
          (progressText r.snapshot color ++
            (rows ++ tableText settings color (some table) search page)) ++ saved) ∧
      (download = false → saved = "" ∧ effect.complaint = none)

section Telling

variable {ν : Type} (w : Workplace ν) (gateway : Gateway ν) (settings : Settings) (color : Bool)
  (path : Path) (search : Option String) (page : Nat) (download : Bool) (retries : Nat) (s : ν)

/-- A run that is ready is told of with its rows and its table. -/
theorem readyText_eq {r : Run} {table : ResultTable} (htable : r.result = some table) :
    ∃ rows, readyText settings color r search page =
      rows ++ tableText settings color (some table) search page := by
  rw [readyText, htable]
  exact ⟨_, rfl⟩

/-- The command tells how the run ended that an accepted file was taken through. -/
theorem told_runAccepted {file : SourceFile} {ending : Ending Phase} {r : Run} {time : Timeline ν}
    (hrun : carryOut (Timeline.surroundings gateway.service) settings file retries
      (Timeline.start s (settings.service.timeoutSeconds * 1000)) = (ending, r, time))
    (hending : ending = .done r.phase) :
    Told settings color file search page download r
      (Effect.after (lineOf ((SelectionOutcome.accepted file).notice.format color))
        (w.runAccepted gateway settings color file search page download retries s)) := by
  subst hending
  constructor
  · intro stage message hphase
    rw [runAccepted, hrun, hphase]
    rfl
  · intro hphase table htable
    rw [runAccepted, hrun, hphase]
    obtain ⟨rows, hready⟩ := readyText_eq settings color search page htable
    dsimp only [runText]
    rw [hready]
    cases download with
    | false =>
      refine ⟨rows, "", ?_, fun _ => ⟨rfl, rfl⟩⟩
      rw [String.append_empty]
      rfl
    | true => exact ⟨rows, _, rfl, fun h => by cases h⟩

end Telling

end Workplace

end CsvCleaning
