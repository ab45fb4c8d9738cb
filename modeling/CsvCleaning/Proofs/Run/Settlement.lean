import CsvCleaning.Proofs.Run.Soundness

/-!
# How starting ends

If every stage call is answered, starting a run comes to an end: the run is ready, or the last call
that was made failed and its stage is the one that the run has failed at. From the stage it resumes
at, at most the remaining stages are carried out, each with one call. A run that is under way or
finished is left alone, and so is one that has no file.
-/

namespace CsvCleaning

/-- After a stage, the run is ready or before the next stage. -/
theorem Stage.donePhase_cases (stage : Stage) :
    stage.donePhase = .ready ∨
      ∃ next : Stage, stage.donePhase = next.resumePhase ∧ next.index = stage.index + 1 := by
  cases stage with
  | upload => exact .inr ⟨.process, rfl, rfl⟩
  | process => exact .inr ⟨.execute, rfl, rfl⟩
  | execute => exact .inr ⟨.result, rfl, rfl⟩
  | result => exact .inl rfl

/-- There are four stages. -/
theorem Stage.index_lt (stage : Stage) : stage.index < 4 := by
  cases stage <;> decide

namespace Run

/-- A run has settled after calls if it is ready, or has failed at the stage of the last call, with
the message of the failure which this call ended with. -/
def SettledAfter (r : Run) (calls : List Flight) : Prop :=
  r.phase = .ready ∨
    ∃ stage message, r.phase = .failed stage message ∧
      ∃ f, calls.getLast? = some f ∧ f.call.stage? = some stage ∧
        ∃ e, f.failure? = some e ∧ message = e.userMessage

/-- Stages that were carried out have come to an end within `n` calls: the run has settled, and what
is returned is its phase. -/
structure SettlesWithin {σ : Type} (n : Nat) (calls : List Flight) (x : Ending Phase × Run × σ) :
    Prop where
  returned : x.1 = .done x.2.1.phase
  settled : x.2.1.SettledAfter calls
  called : 1 ≤ calls.length
  within : calls.length ≤ n

/-- Calls before the last one do not matter to a run that has settled. -/
theorem SettledAfter.cons {r : Run} {calls : List Flight} (h : r.SettledAfter calls) (f : Flight) :
    r.SettledAfter (f :: calls) := by
  rcases h with hready | ⟨stage, message, hphase, g, hlast, hfailure⟩
  · exact .inl hready
  · refine .inr ⟨stage, message, hphase, g, ?_, hfailure⟩
    rw [List.getLast?_cons, hlast]
    rfl

/-- One more call before the others takes one call more. -/
theorem SettlesWithin.cons {σ : Type} {n : Nat} {calls : List Flight} {x : Ending Phase × Run × σ}
    (h : SettlesWithin n calls x) (f : Flight) : SettlesWithin (n + 1) (f :: calls) x where
  returned := h.returned
  settled := h.settled.cons f
  called := by
    rw [List.length_cons]
    exact Nat.le_add_left 1 _
  within := by
    rw [List.length_cons]
    exact Nat.succ_le_succ h.within

/-- More calls may be allowed. -/
theorem SettlesWithin.mono {σ : Type} {m n : Nat} {calls : List Flight}
    {x : Ending Phase × Run × σ} (h : SettlesWithin m calls x) (hle : m ≤ n) :
    SettlesWithin n calls x :=
  ⟨h.returned, h.settled, h.called, Nat.le_trans h.within hle⟩

/-- A run starts at the upload if it is idle and has a file, and at the failed stage otherwise. -/
def StartsAt (r : Run) (stage : Stage) : Prop :=
  (r.phase = .idle ∧ r.file ≠ none ∧ stage = .upload) ∨ ∃ message, r.phase = .failed stage message

/-- A sound run that starts at a stage resumes before it, and has what its call needs. -/
theorem Sound.resume_of_startsAt {r : Run} (h : r.Sound) {stage : Stage} (hstage : r.StartsAt stage) :
    r.phase.canStart = true ∧ r.resume.Sound ∧ r.resume.phase = stage.resumePhase ∧
      ∃ c, r.resume.request? stage = some c := by
  rcases hstage with ⟨hphase, hfile, rfl⟩ | ⟨message, hphase⟩
  · obtain ⟨file, hfile⟩ := Option.ne_none_iff_exists'.mp hfile
    rw [resume_of_failedStage?_eq_none (by rw [hphase]; rfl)]
    exact ⟨by rw [hphase]; rfl, h, hphase, .upload file, by simp [request?, hfile]⟩
  · refine ⟨by rw [hphase]; rfl, h.resume hphase, by rw [resume_of_failed hphase], ?_⟩
    cases stage with
    | upload =>
      obtain ⟨file, hfile⟩ :=
        Option.isSome_iff_exists.mp (h.file (by simp [hphase]) (by simp [hphase]))
      exact ⟨.upload file, by simp [resume_of_failed hphase, request?, hfile]⟩
    | _ => exact ⟨_, rfl⟩

section Starting

variable {σ : Type} (env : Surroundings σ)

/-- Carrying out stages leaves a run alone that no stage follows. -/
theorem runStages_of_nextStage?_eq_none {r : Run} (h : r.phase.nextStage? = none) (s : σ) :
    r.runStages env s = (.done r.phase, r, s) ∧ r.flights env s = [] := by
  obtain ⟨hflight, hstep⟩ := step_of_nextStage?_eq_none env h s
  rw [runStages_eq, flights_eq, hflight, hstep]
  exact ⟨rfl, rfl⟩

/-- A stage that is carried out makes the first of the calls. -/
theorem runStages_of_step {r r' : Run} {s s' : σ} {f : Flight} (hflight : r.flight? env s = some f)
    (hstep : r.step env s = (.done true, r', s')) :
    r.runStages env s = r'.runStages env s' ∧ r.flights env s = f :: r'.flights env s' := by
  rw [runStages_eq, flights_eq, hflight, hstep]
  exact ⟨rfl, rfl⟩

/-- After a call that no stage follows, the stages have come to an end. -/
theorem settlesWithin_of_nextStage?_eq_none {r : Run} {f : Flight}
    (h : r.phase.nextStage? = none) (hsettled : r.SettledAfter [f]) (s : σ) :
    SettlesWithin 1 (f :: r.flights env s) (r.runStages env s) := by
  obtain ⟨hrun, hflights⟩ := runStages_of_nextStage?_eq_none env h s
  rw [hrun, hflights]
  exact ⟨rfl, hsettled, Nat.le_refl 1, Nat.le_refl 1⟩

variable (hanswers : ∀ c seen s, (env.call c seen s).1.isSome)
include hanswers

/-- If calls are answered, a step carries out the stage that comes next: it fails with the failure
of its call, or the run goes on to the phase after it. -/
theorem Sound.step_of_answers {r : Run} (h : r.Sound) {stage : Stage} {c : Call}
    (hphase : r.phase = stage.resumePhase) (hc : r.request? stage = some c) (s : σ) :
    ∃ f r' s', r.flight? env s = some f ∧ r.step env s = (.done true, r', s') ∧
      f.call.stage? = some stage ∧ r'.Sound ∧
      ((∃ e, f.failure? = some e ∧ r'.phase = .failed stage e.userMessage) ∨
        r'.phase = stage.donePhase) := by
  obtain ⟨answer, hanswer⟩ :=
    Option.isSome_iff_exists.mp (hanswers c (r.enter stage).published s)
  obtain ⟨hflight, hstep⟩ := step_of_call_eq_some env hphase hc (Prod.ext hanswer rfl)
  have henter := h.enter hphase hc
  have hraised := RaisedTo.finishStage env ((r.enter stage).conclude stage c answer)
    (env.call c (r.enter stage).published s).2
  rcases hfinish : ((r.enter stage).conclude stage c answer).finishStage env
    (env.call c (r.enter stage).published s).2 with ⟨r', s'⟩
  rw [hfinish] at hstep hraised
  refine ⟨_, r', s', hflight, hstep, stage?_of_request? hc, ?_⟩
  rw [hraised.phase]
  rcases henter.conclude_cases rfl hc answer with ⟨e, hfailure, hconclude⟩ | ⟨_, -, -, hadvance⟩
  · rw [hconclude] at hraised ⊢
    exact ⟨(henter.fail rfl e).raise hraised, .inl ⟨e, hfailure, rfl⟩⟩
  · exact ⟨(henter.advance rfl hc hadvance).raise hraised, .inr hadvance.phase⟩

/-- If calls are answered, carrying out stages comes to an end, with one call for each stage that
is carried out. -/
theorem Sound.runStages_settles {r : Run} (h : r.Sound) {stage : Stage} {c : Call}
    (hphase : r.phase = stage.resumePhase) (hc : r.request? stage = some c) (s : σ) :
    SettlesWithin (4 - stage.index) (r.flights env s) (r.runStages env s) := by
  -- The recursion ends after one more call, or goes on with the next stage, of which there is one
  -- less ahead.
  induction r, s using runStages.induct env generalizing stage c with
  | case1 r s r₁ s₁ hstep ih =>
    obtain ⟨f, r', s', hflight, hstep', hstage, hsound, hcases⟩ :=
      h.step_of_answers env hanswers hphase hc s
    cases hstep.symm.trans hstep'
    obtain ⟨hrun, hflights⟩ := runStages_of_step env hflight hstep
    have hlt := stage.index_lt
    rw [hrun, hflights]
    rcases hcases with ⟨e, hfailure, hfailed⟩ | hdone
    · have hsettled : r₁.SettledAfter [f] :=
        .inr ⟨stage, _, hfailed, f, rfl, hstage, e, hfailure, rfl⟩
      have hend : r₁.phase.nextStage? = none := by rw [hfailed]; rfl
      exact (settlesWithin_of_nextStage?_eq_none env hend hsettled s₁).mono (by omega)
    · rcases stage.donePhase_cases with hready | ⟨next, hnext, hindex⟩
      · have hsettled : r₁.SettledAfter [f] := .inl (hdone.trans hready)
        have hend : r₁.phase.nextStage? = none := by rw [hdone, hready]; rfl
        exact (settlesWithin_of_nextStage?_eq_none env hend hsettled s₁).mono (by omega)
      · obtain ⟨c', hc'⟩ : ∃ c', r₁.request? next = some c' := by
          cases next with
          | upload => cases hindex
          | _ => exact ⟨_, rfl⟩
        have hrest := ih hsound (hdone.trans hnext) hc'
        have hlt' := next.index_lt
        exact (hrest.cons f).mono (by omega)
  | case2 r s r₁ s₁ hstep | case3 r s e r₁ s₁ hstep | case4 r s r₁ s₁ hstep =>
    obtain ⟨f, r', s', -, hstep', -⟩ := h.step_of_answers env hanswers hphase hc s
    cases hstep.symm.trans hstep'

/-- If calls are answered, starting a reachable run comes to an end. A run that is under way or
finished is left alone without a call, and so is one that has no file. Otherwise the run settles,
after at least one call and at most one for each stage from the one that it resumes at. -/
theorem start_settles {r : Run} (hr : Reachable r) (s : σ) :
    (r.phase ≠ .idle → (∀ stage message, r.phase ≠ .failed stage message) →
        r.start env s = (.done r.phase, r, s) ∧ r.flightsOf env s .start = []) ∧
      (r.phase = .idle → r.file = none →
        r.start env s = (.failed (.validation "no file supplied"), r, s) ∧
          r.flightsOf env s .start = []) ∧
      ∀ stage : Stage, r.StartsAt stage →
        SettlesWithin (4 - stage.index) (r.flightsOf env s .start) (r.start env s) := by
  have h := hr.sound
  refine ⟨?_, ?_, ?_⟩
  · intro hidle hfailed
    have hstart : r.phase.canStart = false := by
      cases hphase : r.phase with
      | idle => exact absurd hphase hidle
      | failed stage message => exact absurd hphase (hfailed stage message)
      | _ => rfl
    rw [start_eq, flightsOf, hstart]
    exact ⟨rfl, rfl⟩
  · intro hphase hfile
    obtain ⟨hflight, hstep⟩ := step_of_file_eq_none env hphase hfile s
    have hstart : r.phase.canStart = true := by rw [hphase]; rfl
    have hresume : r.resume = r := resume_of_failedStage?_eq_none (by rw [hphase]; rfl)
    rw [start_eq, flightsOf, hstart, hresume, if_pos rfl, if_pos rfl, runStages_eq, flights_eq,
      hflight, hstep]
    exact ⟨rfl, rfl⟩
  · intro stage hstage
    obtain ⟨hstart, hsound, hphase, c, hc⟩ := h.resume_of_startsAt hstage
    rw [start_eq, flightsOf, hstart, if_pos rfl, if_pos rfl]
    exact hsound.runStages_settles env hanswers hphase hc s

end Starting

/-- An idle run with a file settles after at most four calls if every call is answered. -/
theorem start_settles_of_obliging :
    let staged := ((fresh true).perform .obliging () (.stageFile (.ofBytes "a.csv" []))).2.1
    (Reachable staged ∧ ∀ c seen s, (Surroundings.obliging.call c seen s).1.isSome) ∧
      SettlesWithin 4 (staged.flightsOf .obliging () .start) (staged.start .obliging ()) := by
  have hanswers : ∀ c seen s, (Surroundings.obliging.call c seen s).1.isSome := by
    intro c seen s
    cases c <;> rfl
  have hstaged := Reachable.perform .obliging () (.stageFile (.ofBytes "a.csv" [])) (.fresh true)
  obtain ⟨-, -, hsettles⟩ := start_settles .obliging hanswers hstaged ()
  have hstarts : StartsAt
      ((fresh true).perform .obliging () (.stageFile (.ofBytes "a.csv" []))).2.1 .upload :=
    .inl ⟨by decide +kernel, by decide +kernel, rfl⟩
  exact ⟨⟨hstaged, hanswers⟩, hsettles .upload hstarts⟩

end Run

end CsvCleaning
