import CsvCleaning.Proofs.Run.Rehearsing

/-!
# Rehearsals go as they are told

In a rehearsal the user works with a run while stages are told to fail or to succeed, and refreshes
go on whenever they come to it. The run and the rehearsal stay coupled through all of this, through
clearing, uploading again and resuming too, for the rehearsal never takes progress back. Therefore
every stage call fails with the failure that is set for its stage when it is made, or else succeeds,
and starting ends at the first of the remaining stages that is told to fail, or with the run ready.
-/

namespace CsvCleaning

namespace Stage

/-- The stages from one on. -/
def onward (stage : Stage) : List Stage :=
  [upload, process, execute, result].drop stage.index

/-- A stage comes from another one on if its place does. -/
theorem mem_onward {stage later : Stage} : later ∈ stage.onward ↔ stage.index ≤ later.index := by
  cases stage <;> cases later <;> decide

/-- The failure of the first of some stages that are told to fail, as the phase that it leads to. -/
def firstFailure? (failures : Stage → Option Failure) (stages : List Stage) : Option Phase :=
  stages.findSome? fun s => (failures s).map fun f => .failed s f.userMessage

/-- Where a stage alone leads to. -/
def outcome (failures : Stage → Option Failure) (stage : Stage) : Phase :=
  (firstFailure? failures [stage]).getD stage.donePhase

/-- Where the stages from one on lead to: to the failure of the first of them that is told to fail,
or to the end. -/
def ending (failures : Stage → Option Failure) (stage : Stage) : Phase :=
  (firstFailure? failures stage.onward).getD .ready

variable {failures : Stage → Option Failure} {stage : Stage} {stages : List Stage}

/-- There is no first failure precisely if none of the stages is told to fail. -/
theorem firstFailure?_eq_none_iff :
    firstFailure? failures stages = none ↔ ∀ s ∈ stages, failures s = none := by
  simp [firstFailure?]

/-- The first failure is set for the stage that it is about. -/
theorem exists_of_firstFailure?_eq_some {phase : Phase}
    (h : firstFailure? failures stages = some phase) :
    ∃ s f, failures s = some f ∧ phase = .failed s f.userMessage := by
  obtain ⟨s, -, hs⟩ := List.exists_of_findSome?_eq_some h
  obtain ⟨f, hf, rfl⟩ := Option.map_eq_some_iff.mp hs
  exact ⟨s, f, hf, rfl⟩

/-- Stages that lead to a failure are told to fail, with the message that is seen. -/
theorem exists_of_getD_eq_failed {other : Phase} {failedAt : Stage} {message : String}
    (h : (firstFailure? failures stages).getD other = .failed failedAt message)
    (hother : other.failedStage? = none) :
    ∃ f, failures failedAt = some f ∧ message = f.userMessage := by
  cases hfirst : firstFailure? failures stages with
  | none =>
    rw [hfirst, Option.getD_none] at h
    rw [h] at hother
    cases hother
  | some phase =>
    obtain ⟨s, f, hf, rfl⟩ := exists_of_firstFailure?_eq_some hfirst
    rw [hfirst, Option.getD_some] at h
    cases h
    exact ⟨f, hf, rfl⟩

/-- A stage leads to the failure that is set for it, or to the phase after it. -/
theorem outcome_eq (failures : Stage → Option Failure) (stage : Stage) :
    stage.outcome failures =
      ((failures stage).map fun f => .failed stage f.userMessage).getD stage.donePhase := by
  rw [outcome, firstFailure?, List.findSome?_cons, List.findSome?_nil]
  cases failures stage <;> rfl

/-- The stages come to the end precisely if none of them is told to fail. -/
theorem ending_eq_ready_iff :
    stage.ending failures = .ready ↔
      ∀ later : Stage, stage.index ≤ later.index → failures later = none := by
  simp only [← mem_onward, ← firstFailure?_eq_none_iff, ending]
  cases hfirst : firstFailure? failures stage.onward with
  | none => simp
  | some phase =>
    obtain ⟨s, f, -, rfl⟩ := exists_of_firstFailure?_eq_some hfirst
    simp

/-- After a stage, either the stages have come to their end, or the next one decides. -/
theorem outcome_cases (failures : Stage → Option Failure) (stage : Stage) :
    ((stage.outcome failures).nextStage? = none ∧ stage.outcome failures = stage.ending failures) ∨
      ∃ next : Stage, stage.outcome failures = next.resumePhase ∧ next ≠ .upload ∧
        stage.ending failures = next.ending failures := by
  cases hfailure : failures stage with
  | some f =>
    rw [outcome_eq, hfailure]
    exact .inl ⟨rfl, by cases stage <;> simp [ending, firstFailure?, onward, index, hfailure]⟩
  | none =>
    have hending {rest : List Stage} :
        firstFailure? failures (stage :: rest) = firstFailure? failures rest := by
      rw [firstFailure?, List.findSome?_cons, hfailure]
      rfl
    rw [outcome, hending]
    cases stage with
    | upload => exact .inr ⟨.process, rfl, by decide, congrArg (·.getD .ready) hending⟩
    | process => exact .inr ⟨.execute, rfl, by decide, congrArg (·.getD .ready) hending⟩
    | execute => exact .inr ⟨.result, rfl, by decide, congrArg (·.getD .ready) hending⟩
    | result => exact .inl ⟨rfl, (congrArg (·.getD .ready) hending).symm⟩

end Stage

/-- What happens in a rehearsal. -/
inductive Direction where
  /-- The user does something with the run. -/
  | perform (op : Operation)
  /-- A stage is told to fail from now on, or no longer. -/
  | setFailure (stage : Stage) (failure : Option Failure)
  /-- The refreshes that wait go on. -/
  | pass

namespace Run

section Moments

variable {σ : Type} (env : Surroundings σ)

/-- The stage calls that are made until no stage comes next, each with its surroundings at that
moment. -/
def moments (r : Run) (s : σ) : List (Flight × σ) :=
  match _h : r.step env s with
  | (.done true, r', s') => (r.flight? env s).toList.map (·, s) ++ moments r' s'
  | _ => (r.flight? env s).toList.map (·, s)
termination_by r.phase.stagesAhead
decreasing_by exact stagesAhead_lt_of_step env _h

/-- The stage calls of an operation, each with its surroundings at that moment. -/
def momentsOf (r : Run) (s : σ) : Operation → List (Flight × σ)
  | .start => if r.phase.canStart then r.resume.moments env s else []
  | .step => (r.flight? env s).toList.map (·, s)
  | .stageFile _ | .clear | .settle => []

/-- The moments are those of the steps. -/
theorem moments_eq (r : Run) (s : σ) :
    r.moments env s =
      (r.flight? env s).toList.map (·, s) ++
        match r.step env s with
        | (.done true, r', s') => r'.moments env s'
        | _ => [] := by
  rw [moments]
  split <;> simp [*]

/-- A stage that is carried out has the first of the moments. -/
theorem moments_of_step {r r' : Run} {s s' : σ} {f : Flight} (hflight : r.flight? env s = some f)
    (hstep : r.step env s = (.done true, r', s')) :
    r.moments env s = (f, s) :: r'.moments env s' := by
  rw [moments_eq, hflight, hstep]
  rfl

/-- Every call that is made until no stage comes next has its moment. -/
theorem map_fst_moments (r : Run) (s : σ) : (r.moments env s).map (·.1) = r.flights env s := by
  induction r, s using runStages.induct env with
  | case1 r s r' s' hstep ih =>
    rw [moments_eq, flights_eq, hstep, List.map_append, ih, List.map_map]
    simp [Function.comp_def]
  | case2 r s r' s' hstep | case3 r s f r' s' hstep | case4 r s r' s' hstep =>
    rw [moments_eq, flights_eq, hstep, List.map_append, List.map_map]
    simp [Function.comp_def]

/-- Every call of an operation has its moment. -/
theorem map_fst_momentsOf (r : Run) (s : σ) (op : Operation) :
    (r.momentsOf env s op).map (·.1) = r.flightsOf env s op := by
  cases op with
  | start =>
    simp only [momentsOf, flightsOf]
    split
    · exact map_fst_moments env r.resume s
    · rfl
  | step => simp [momentsOf, flightsOf, Function.comp_def]
  | stageFile file | clear | settle => rfl

/-- A step carries out the stage that comes next, or nothing changes. -/
theorem step_eq_self_or_exists (r : Run) (s : σ) :
    ((r.step env s).2 = (r, s) ∧ r.momentsOf env s .step = []) ∨
      ∃ stage c, r.phase = stage.resumePhase ∧ r.request? stage = some c := by
  rcases step_cases env r s with ⟨-, hflight, hstep⟩ | ⟨-, -, hflight, hstep⟩ |
    ⟨stage, c, hphase, hc, -⟩
  · rw [momentsOf, hflight, hstep]
    exact .inl ⟨rfl, rfl⟩
  · rw [momentsOf, hflight, hstep]
    exact .inl ⟨rfl, rfl⟩
  · exact .inr ⟨stage, c, hphase, hc⟩

/-- Starting begins at some stage, or nothing changes and the run has not failed. -/
theorem start_eq_self_or_startsAt (r : Run) (s : σ) :
    ((r.start env s).2 = (r, s) ∧ r.momentsOf env s .start = [] ∧ r.phase.failedStage? = none) ∨
      ∃ stage, r.StartsAt stage := by
  cases hphase : r.phase with
  | idle =>
    have hresume : r.resume = r := resume_of_failedStage?_eq_none (by rw [hphase]; rfl)
    cases hfile : r.file with
    | none =>
      obtain ⟨hflight, hstep⟩ := step_of_file_eq_none env hphase hfile s
      rw [start_eq, momentsOf, hresume, runStages_eq, moments_eq, hflight, hstep, hphase]
      exact .inl ⟨rfl, rfl, rfl⟩
    | some file => exact .inr ⟨.upload, .inl ⟨hphase, by rw [hfile]; simp, rfl⟩⟩
  | failed stage message => exact .inr ⟨stage, .inr ⟨message, hphase⟩⟩
  | _ =>
    rw [start_eq, momentsOf, hphase]
    exact .inl ⟨rfl, rfl, rfl⟩

end Moments

/-- Staging a file changes nothing, or leaves an idle run without a record. -/
theorem stageFile_cases (r : Run) (file : SourceFile) :
    (r.stageFile file).1 = r ∨
      (r.stageFile file).1.phase = .idle ∧ (r.stageFile file).1.record = none := by
  unfold stageFile
  split
  · exact .inl rfl
  · refine .inr ?_
    dsimp only
    split
    · exact ⟨rfl, rfl⟩
    · next hkept =>
      obtain ⟨hphase, hrecord⟩ := not_or.mp hkept
      exact ⟨not_not.mp hphase, Option.not_isSome_iff_eq_none.mp hrecord⟩

/-- Follow a direction. -/
def follow (r : Run) (t : Timeline Mock) : Direction → Run × Timeline Mock
  | .perform op => (r.perform rehearsal t op).2
  | .setFailure stage failure => (r, { t with service := t.service.setFailure stage failure })
  | .pass => (r, t.runReady Mock.service r.published.phase)

/-- Follow directions one after the other. -/
def followAll (r : Run) (t : Timeline Mock) : List Direction → Run × Timeline Mock
  | [] => (r, t)
  | direction :: directions => (r.follow t direction).1.followAll (r.follow t direction).2 directions

/-- A stage call in rehearsal goes as it is told: no flag of the record is ahead of the rehearsal
when it is made, and it fails precisely with the failure that is set for its stage then. -/
structure Told (x : Flight × Timeline Mock) : Prop where
  flags : ∀ a ∈ x.1.run.record, a.flags ≤ x.2.service.progress
  failure : ∃ stage, x.1.call.stage? = some stage ∧ x.1.failure? = x.2.service.failures stage

namespace Coupled

variable {r : Run} {t : Timeline Mock}

/-- The call of a stage goes as it is told, and the two stay coupled. -/
theorem call (h : Coupled r t) {stage : Stage} {c : Call} (hphase : r.phase = stage.busyPhase)
    (hc : r.request? stage = some c) (seen : Phase) :
    ∃ answer t', t.call Mock.service c seen = (some answer, t') ∧
      (Flight.mk r c (some answer)).failure? = t.service.failures stage ∧
      Coupled (r.conclude stage c answer) t' ∧ t'.service.failures = t.service.failures ∧
      (r.conclude stage c answer).phase = stage.outcome t.service.failures := by
  rw [Stage.outcome_eq]
  cases hfailure : t.service.failures stage with
  | some e =>
    obtain ⟨t', hcall, hcoupled, hfailures⟩ := h.call_of_failure hphase hc hfailure seen
    exact ⟨.error e, t', hcall, rfl, hcoupled, hfailures, rfl⟩
  | none =>
    obtain ⟨reply, t', hcall, hrefusal, hcoupled, hfailures, hdone⟩ :=
      h.call_of_success hphase hc hfailure seen
    exact ⟨.ok reply, t', hcall, hrefusal, hcoupled, hfailures, hdone⟩

/-- The stage that comes next goes as it is told, and the two stay coupled. -/
theorem step (h : Coupled r t) {stage : Stage} {c : Call} (hphase : r.phase = stage.resumePhase)
    (hc : r.request? stage = some c) :
    ∃ f r' t', r.flight? rehearsal t = some f ∧ r.step rehearsal t = (.done true, r', t') ∧
      Told (f, t) ∧ Coupled r' t' ∧ t'.service.failures = t.service.failures ∧
      r'.phase = stage.outcome t.service.failures := by
  have henter := h.enter hphase hc
  obtain ⟨answer, t₁, hcall, hfailure, hcoupled, hfailures, houtcome⟩ :=
    henter.call rfl (c := c) (by rw [request?_enter, hc]) (r.enter stage).published.phase
  obtain ⟨hflight, hstep⟩ := step_of_call_eq_some rehearsal hphase hc hcall
  obtain ⟨hfinish, hservice⟩ := hcoupled.finishStage
  have hsame := phase_finishStage rehearsal ((r.enter stage).conclude stage c answer) t₁
  rcases hend : ((r.enter stage).conclude stage c answer).finishStage rehearsal t₁ with ⟨r', t'⟩
  rw [hend] at hstep hfinish hservice hsame
  exact ⟨_, r', t', hflight, hstep, ⟨henter.flags, stage, stage?_of_request? hc, hfailure⟩, hfinish,
    (congrArg Mock.failures hservice).trans hfailures, hsame.trans houtcome⟩

/-- Stages that are carried out go as they are told, up to the first that is told to fail, and the
two stay coupled. -/
theorem runStages (h : Coupled r t) {stage : Stage} {c : Call} (hphase : r.phase = stage.resumePhase)
    (hc : r.request? stage = some c) :
    (∀ x ∈ r.moments rehearsal t, Told x) ∧
      ∃ r' t', r.runStages rehearsal t = (.done (stage.ending t.service.failures), r', t') ∧
        Coupled r' t' ∧ r'.phase = stage.ending t.service.failures := by
  -- After the stage, either none follows, or the next one begins with the same failures set.
  induction r, t using runStages.induct rehearsal generalizing stage c with
  | case1 r t r₁ t₁ hstep ih =>
    obtain ⟨f, r', t', hflight, hstep', htold, hcoupled, hfailures, houtcome⟩ := h.step hphase hc
    cases hstep.symm.trans hstep'
    obtain ⟨hrun, -⟩ := runStages_of_step rehearsal hflight hstep
    rw [hrun, moments_of_step rehearsal hflight hstep, List.forall_mem_cons]
    rcases stage.outcome_cases t.service.failures with ⟨hend, hending⟩ | ⟨next, hnext, hupload, hending⟩
    · have hnone : r₁.phase.nextStage? = none := by rw [houtcome, hend]
      obtain ⟨hflight', hstep₁⟩ := step_of_nextStage?_eq_none rehearsal hnone t₁
      obtain ⟨hrest, -⟩ := runStages_of_nextStage?_eq_none rehearsal hnone t₁
      rw [moments_eq, hflight', hstep₁, hrest, houtcome, hending]
      exact ⟨⟨htold, by simp⟩, r₁, t₁, rfl, hcoupled, houtcome.trans hending⟩
    · obtain ⟨c', hc'⟩ : ∃ c', r₁.request? next = some c' := by
        cases next with
        | upload => exact absurd rfl hupload
        | _ => exact ⟨_, rfl⟩
      obtain ⟨hmoments, hrest⟩ := ih hcoupled (houtcome.trans hnext) hc'
      rw [hfailures] at hrest
      rw [hending]
      exact ⟨⟨htold, hmoments⟩, hrest⟩
  | case2 r t r₁ t₁ hstep | case3 r t e r₁ t₁ hstep | case4 r t r₁ t₁ hstep =>
    obtain ⟨f, r', t', -, hstep', -⟩ := h.step hphase hc
    cases hstep.symm.trans hstep'

/-- Resuming keeps the two coupled. -/
theorem resume (h : Coupled r t) (hsound : r.resume.Sound) : Coupled r.resume t := by
  refine h.run hsound fun b hb => ?_
  cases hstage : r.phase.failedStage? with
  | none =>
    rw [resume_of_failedStage?_eq_none hstage] at hb
    exact ⟨b, hb, rfl, rfl⟩
  | some stage =>
    simp only [Run.resume, hstage] at hb
    obtain ⟨a, ha, rfl⟩ := Option.map_eq_some_iff.mp hb
    exact ⟨a, ha, rfl, rfl⟩

/-- A run that starts at a stage goes as it is told from there, and the two stay coupled. -/
theorem start (h : Coupled r t) {stage : Stage} (hstage : r.StartsAt stage) :
    (∀ x ∈ r.momentsOf rehearsal t .start, Told x) ∧
      ∃ r' t', r.start rehearsal t = (.done (stage.ending t.service.failures), r', t') ∧
        Coupled r' t' ∧ r'.phase = stage.ending t.service.failures := by
  obtain ⟨hstart, hsound, hphase, c, hc⟩ := h.sound.resume_of_startsAt hstage
  rw [start_eq, momentsOf, if_pos hstart, if_pos hstart]
  exact (h.resume hsound).runStages hphase hc

/-- Clearing keeps the two coupled. -/
theorem clear (h : Coupled r t) : Coupled r.clear t :=
  h.run (.of_idle rfl rfl rfl) fun _ hb => by cases hb

/-- Staging a file keeps the two coupled. -/
theorem stageFile (h : Coupled r t) (file : SourceFile) : Coupled (r.stageFile file).1 t := by
  rcases stageFile_cases r file with hsame | ⟨-, hrecord⟩
  · rwa [hsame]
  · exact h.run (h.sound.stageFile file) fun b hb => by
      rw [hrecord] at hb
      cases hb

/-- Waiting for the refreshes keeps the two coupled. -/
theorem settle (h : Coupled r t) :
    Coupled (r.settle rehearsal t).1 (r.settle rehearsal t).2 := by
  obtain ⟨hrehearsed, hcalls⟩ := h.rehearsed.settleAll r.published.phase r.pending
    (t.ready.length + t.asleep.length + 1)
  generalize hwait : t.settleAll Mock.service r.published.phase r.pending
    (t.ready.length + t.asleep.length + 1) = t' at hrehearsed hcalls
  have hsettle : r.settle rehearsal t =
      ({ r.receiveAll t'.back with pending := [] }.publish, t'.handOver.2) := by
    rw [← hwait]
    rfl
  have hreceived := (h.afterCalls hrehearsed hcalls).receiveAll hrehearsed.back
  have hforgotten : Coupled { r.receiveAll t'.back with pending := [] } t' :=
    hreceived.run (hreceived.sound.raise (.of_eq rfl rfl rfl rfl rfl)) fun b hb => ⟨b, hb, rfl, rfl⟩
  rw [hsettle]
  exact hforgotten.publish.handOver

/-- Every operation keeps the two coupled, and all its stage calls go as they are told. -/
theorem perform (h : Coupled r t) (op : Operation) :
    Coupled (r.perform rehearsal t op).2.1 (r.perform rehearsal t op).2.2 ∧
      ∀ x ∈ r.momentsOf rehearsal t op, Told x := by
  cases op with
  | stageFile file => exact ⟨h.stageFile file, by simp [momentsOf]⟩
  | clear => exact ⟨h.clear, by simp [momentsOf]⟩
  | settle => exact ⟨h.settle, by simp [momentsOf]⟩
  | start =>
    rcases start_eq_self_or_startsAt rehearsal r t with ⟨hsame, hmoments, -⟩ | ⟨stage, hstage⟩
    · rw [hmoments, Run.perform, hsame]
      exact ⟨h, by simp⟩
    · obtain ⟨hmoments, r', t', hstart, hcoupled, -⟩ := h.start hstage
      rw [Run.perform, hstart]
      exact ⟨hcoupled, hmoments⟩
  | step =>
    rcases step_eq_self_or_exists rehearsal r t with ⟨hsame, hmoments⟩ | ⟨stage, c, hphase, hc⟩
    · rw [hmoments, Run.perform, hsame]
      exact ⟨h, by simp⟩
    · obtain ⟨f, r', t', hflight, hstep, htold, hcoupled, -⟩ := h.step hphase hc
      rw [Run.perform, momentsOf, hflight, hstep]
      exact ⟨hcoupled, by simpa using htold⟩

/-- A run that has failed after an operation had failed before and was not started, or failed as its
stage was told to. -/
theorem failed_cases (h : Coupled r t) {op : Operation} {stage : Stage} {message : String}
    (hfailed : (r.perform rehearsal t op).2.1.phase = .failed stage message) :
    (op ≠ .start ∧ r.phase = .failed stage message) ∨
      ∃ f, t.service.failures stage = some f ∧ message = f.userMessage := by
  cases op with
  | stageFile file =>
    rcases stageFile_cases r file with hsame | ⟨hidle, -⟩
    · rw [Run.perform, hsame] at hfailed
      exact .inl ⟨by simp, hfailed⟩
    · cases hidle.symm.trans hfailed
  | clear => cases hfailed
  | settle => exact .inl ⟨by simp, (RaisedTo.settle rehearsal r t).phase.symm.trans hfailed⟩
  | start =>
    rcases start_eq_self_or_startsAt rehearsal r t with ⟨hsame, -, hnone⟩ | ⟨stage, hstage⟩
    · rw [Run.perform, hsame] at hfailed
      rw [hfailed] at hnone
      cases hnone
    · obtain ⟨-, r', t', hstart, -, hphase⟩ := h.start hstage
      rw [Run.perform, hstart] at hfailed
      exact .inr (Stage.exists_of_getD_eq_failed (hphase.symm.trans hfailed) rfl)
  | step =>
    rcases step_eq_self_or_exists rehearsal r t with ⟨hsame, -⟩ | ⟨stage', c, hphase, hc⟩
    · rw [Run.perform, hsame] at hfailed
      exact .inl ⟨by simp, hfailed⟩
    · obtain ⟨f, r', t', -, hstep, -, -, -, houtcome⟩ := h.step hphase hc
      rw [Run.perform, hstep] at hfailed
      refine .inr (Stage.exists_of_getD_eq_failed (houtcome.symm.trans hfailed) ?_)
      cases stage' <;> rfl

/-- Every direction keeps the two coupled. -/
theorem follow (h : Coupled r t) (direction : Direction) :
    Coupled (r.follow t direction).1 (r.follow t direction).2 := by
  cases direction with
  | perform op => exact (h.perform op).1
  | setFailure stage failure =>
    have hrehearsed :
        Timeline.Rehearsed { t with service := t.service.setFailure stage failure } :=
      h.rehearsed.congr rfl rfl (Flags.le_refl _) (List.Subset.refl _) rfl (List.Subset.refl _)
    exact h.surroundings hrehearsed rfl (Flags.le_refl _)
  | pass =>
    obtain ⟨hrehearsed, -, hcalls⟩ := h.rehearsed.runReady r.published.phase
    exact h.afterCalls hrehearsed hcalls

/-- Directions keep the two coupled. -/
theorem followAll (h : Coupled r t) (directions : List Direction) :
    Coupled (r.followAll t directions).1 (r.followAll t directions).2 := by
  induction directions generalizing r t with
  | nil => exact h
  | cons direction directions ih => exact ih (h.follow direction)

/-- A run that has not begun is coupled to a rehearsal without delay. -/
theorem fresh {m : Mock} (hnamed : Text.allBlank m.fileId = false) (hdelay : m.delay = 0)
    (timeout : Nat) (refreshing : Bool) :
    Coupled (.fresh refreshing) (.start m timeout) where
  sound := .of_idle rfl rfl rfl
  rehearsed := ⟨hdelay, hnamed, rfl, by simp [Timeline.start], by simp [Timeline.start],
    by simp [Timeline.start]⟩
  fileId := fun _ ha => by cases ha
  flags := fun _ ha => by cases ha

/-- A refresh that waits is refused for no other reason than the failure that is set for the
status. -/
theorem statusFailure_of_answer (h : Coupled r t) {w : ReadyRefresh} (hw : w ∈ t.ready)
    {f : Failure} (hanswer : (Mock.answer (.status w.ticket.fileId) t.service).1 = .error f) :
    t.service.statusFailure = some f := by
  obtain ⟨habout, huploaded⟩ := h.rehearsed.about w hw
  rw [habout, Mock.answer_status_of_uploaded h.rehearsed.named huploaded] at hanswer
  cases hfailure : t.service.statusFailure with
  | none =>
    rw [hfailure] at hanswer
    cases hanswer
  | some g =>
    rw [hfailure] at hanswer
    rw [Except.error.inj hanswer]

end Coupled

/-- Whatever the user does with a run in rehearsal, and whichever stages are told to fail or to
succeed in between, no flag of the record is ever ahead of the rehearsal. Every stage call fails
with the failure that is set for its stage when it is made, or else succeeds, and no run fails for
another reason. So starting ends at the first of the remaining stages that is told to fail, and with
the run ready precisely if there is none. A refresh is answered with a report, or with the failure
that is set for the status. -/
theorem stages_fail_as_told {m : Mock} (hnamed : Text.allBlank m.fileId = false)
    (hdelay : m.delay = 0) (timeout : Nat) (refreshing : Bool) (directions : List Direction) :
    let x := (fresh refreshing).followAll (.start m timeout) directions
    let r := x.1
    let t := x.2
    (∀ a ∈ r.record, a.flags ≤ t.service.progress) ∧
      (∀ op, (r.momentsOf rehearsal t op).map (·.1) = r.flightsOf rehearsal t op ∧
        ∀ moment ∈ r.momentsOf rehearsal t op, Told moment) ∧
      (∀ op stage message, (r.perform rehearsal t op).2.1.phase = .failed stage message →
        (op ≠ .start ∧ r.phase = .failed stage message) ∨
          ∃ f, t.service.failures stage = some f ∧ message = f.userMessage) ∧
      (∀ stage, r.StartsAt stage → ∃ r' t',
        r.start rehearsal t = (.done (stage.ending t.service.failures), r', t') ∧
          r'.phase = stage.ending t.service.failures ∧
          (r'.phase = .ready ↔
            ∀ later : Stage, stage.index ≤ later.index → t.service.failures later = none)) ∧
      ∀ w ∈ t.ready, ∀ f, (Mock.answer (.status w.ticket.fileId) t.service).1 = .error f →
        t.service.statusFailure = some f := by
  intro x r t
  have h : Coupled r t := (Coupled.fresh hnamed hdelay timeout refreshing).followAll directions
  refine ⟨h.flags, fun op => ⟨map_fst_momentsOf rehearsal r t op, (h.perform op).2⟩,
    fun op stage message => h.failed_cases, ?_, fun w hw f => h.statusFailure_of_answer hw⟩
  intro stage hstage
  obtain ⟨-, r', t', hstart, -, hphase⟩ := h.start hstage
  exact ⟨r', t', hstart, hphase, by rw [hphase]; exact Stage.ending_eq_ready_iff⟩

/-- A run with a file fails at the execution, and not before, if the execution alone is told to
fail. -/
theorem staged_run_fails_at_execution :
    let failure : Failure := .server 500 "out of memory"
    let m := (Mock.ofFileId "a1").withShape 2 3
    let x := (fresh true).followAll (.start m 30000)
      [.perform (.stageFile (.ofBytes "a.csv" [])), .setFailure .execute (some failure)]
    (Text.allBlank m.fileId = false ∧ m.delay = 0) ∧ x.1.StartsAt .upload ∧
      ∃ r' t', x.1.start rehearsal x.2 = (.done (.failed .execute failure.userMessage), r', t') ∧
        r'.phase = .failed .execute failure.userMessage := by
  intro failure m x
  have hnamed : Text.allBlank m.fileId = false := by decide +kernel
  have hstarts : x.1.StartsAt .upload := .inl ⟨by decide +kernel, by decide +kernel, rfl⟩
  obtain ⟨-, -, -, hstart, -⟩ := stages_fail_as_told hnamed rfl 30000 true
    [.perform (.stageFile (.ofBytes "a.csv" [])), .setFailure .execute (some failure)]
  obtain ⟨r', t', hended, hphase, -⟩ := hstart .upload hstarts
  have hending : Stage.upload.ending x.2.service.failures =
      .failed .execute failure.userMessage := rfl
  rw [hending] at hended hphase
  exact ⟨⟨hnamed, rfl⟩, hstarts, r', t', hended, hphase⟩

end Run

end CsvCleaning
