import CsvCleaning.Proofs.Run.Soundness
import Mathlib.Data.List.Forall2

/-!
# Runs with and without refreshes

Refreshes do not influence a run. Two runs go side by side, through the same operations and with
the same answers to their stage calls. The first one orders no refreshes; those of the second one
say anything and come back at any time. After every operation the second run is the first one,
perhaps with more flags in its record, and both have made the same calls and returned the same.

The stages do read the flags of the record, which may be raised early in the second run. In a sound
run the flags that a stage asks for are there anyway, so that an answer advances both runs or fails
both for the same reason.
-/

namespace CsvCleaning

/-- Surroundings that answer stage calls from a memory of their own. What becomes of the refreshes
is left to the surroundings given. -/
def Surroundings.answering {σ τ : Type} (refreshes : Surroundings τ)
    (answers : (c : Call) → σ → Option (Answer c) × σ) : Surroundings (σ × τ) where
  call c seen t := ((answers c t.1).1, (answers c t.1).2, (refreshes.call c seen t.2).2)
  order ticket t := (t.1, refreshes.order ticket t.2)
  arrived t :=
    let (arrivals, u) := refreshes.arrived t.2
    (arrivals, t.1, u)
  settle tickets seen t :=
    let (arrivals, u) := refreshes.settle tickets seen t.2
    (arrivals, t.1, u)

/-- The same call with the same answer, in a run that is perhaps raised. -/
structure Flight.AgreesWith (f f' : Flight) : Prop where
  asked : f'.asked = f.asked
  run : f.run.RaisedTo f'.run

namespace Run

/-- The same operation with the same calls and the same outcome, on a run that is perhaps raised. -/
structure Entry.AgreesWith (e e' : Entry) : Prop where
  operation : e'.operation = e.operation
  flights : List.Forall₂ Flight.AgreesWith e.flights e'.flights
  outcome : e'.outcome = e.outcome
  after : e.after.RaisedTo e'.after

/-- A sound run that neither orders nor expects refreshes, beside one that it is raised to. -/
structure Beside (r r' : Run) : Prop where
  sound : r.Sound
  refreshing : r.refreshing = false
  pending : r.pending = []
  raised : r.RaisedTo r'

/-- What two runs have come to side by side: they have returned the same and received the same
answers. -/
structure Together {α σ τ τ' : Type} (x : α × Run × σ × τ) (x' : α × Run × σ × τ') : Prop where
  returned : x'.1 = x.1
  beside : x.2.1.Beside x'.2.1
  answers : x'.2.2.1 = x.2.2.1

namespace RaisedTo

variable {r r' : Run}

/-- Changing the record alike, without regard to its flags, keeps a run raised. -/
theorem map_record (h : r.RaisedTo r') (phase : Phase) {change : Record → Record}
    (hchange : ∀ a b : Record, a.RaisedTo b → (change a).RaisedTo (change b)) :
    { r with phase := phase, record := r.record.map change }.RaisedTo
      { r' with phase := phase, record := r'.record.map change } := by
  refine ⟨h.id, h.file, rfl, h.result, ?_⟩
  have hrecord := h.record
  generalize r.record = x at hrecord
  generalize r'.record = x' at hrecord
  cases hrecord with
  | none => exact .none
  | some hab => exact .some (hchange _ _ hab)

/-- Clearing keeps a run raised. -/
theorem clear (h : r.RaisedTo r') : r.clear.RaisedTo r'.clear :=
  ⟨congrArg Nat.succ h.id, rfl, rfl, rfl, .none⟩

/-- Staging a file keeps a run raised. -/
theorem stageFile (h : r.RaisedTo r') (file : SourceFile) :
    (r.stageFile file).1.RaisedTo (r'.stageFile file).1 := by
  have hhold : ∀ {r r' : Run}, r.RaisedTo r' →
      { r with file := some file }.publish.RaisedTo { r' with file := some file }.publish :=
    fun h => ⟨h.id, rfl, h.phase, h.result, h.record⟩
  unfold Run.stageFile
  rw [h.phase, h.isSome_record]
  split
  · exact h
  · dsimp only
    split
    · exact hhold h.clear
    · exact hhold h

/-- A file is taken or refused alike. -/
theorem stageFile_reply (h : r.RaisedTo r') (file : SourceFile) :
    (r'.stageFile file).2 = (r.stageFile file).2 := by
  unfold Run.stageFile
  rw [h.phase]
  split <;> rfl

/-- Resuming keeps a run raised. -/
theorem resume (h : r.RaisedTo r') : r.resume.RaisedTo r'.resume := by
  unfold Run.resume
  rw [h.phase]
  split
  · refine h.map_record _ fun a b hab => ?_
    exact ⟨hab.run, hab.fileId, hab.filename, hab.script, hab.dataSummary, hab.processedRowCount,
      rfl, hab.flags⟩
  · exact h

/-- Beginning a stage keeps a run raised. -/
theorem enter (h : r.RaisedTo r') (stage : Stage) : (r.enter stage).RaisedTo (r'.enter stage) :=
  ⟨h.id, h.file, rfl, h.result, h.record⟩

/-- A failing stage keeps a run raised. -/
theorem fail (h : r.RaisedTo r') (stage : Stage) (e : Failure) :
    (r.fail stage e).RaisedTo (r'.fail stage e) := by
  refine h.map_record _ fun a b hab => ?_
  exact ⟨hab.run, hab.fileId, hab.filename, hab.script, hab.dataSummary, hab.processedRowCount,
    rfl, hab.flags⟩

/-- An accepted reply keeps a run raised. -/
theorem advance {r₁ r₁' : Run} (h : r.RaisedTo r') {stage : Stage} {c : Call} {reply : c.Reply}
    (hadvance : Advance r stage c reply r₁) (hadvance' : Advance r' stage c reply r₁') :
    r₁.RaisedTo r₁' := by
  have hrecord := h.record
  cases hadvance with
  | upload file reply hid =>
    cases hadvance'
    refine ⟨h.id, h.file, rfl, h.result, .some ?_⟩
    exact ⟨h.id, rfl, rfl, rfl, rfl, rfl, rfl, Flags.le_refl _⟩
  | process fileId reply a hid ha =>
    cases hadvance' with
    | process _ _ b hid' hb =>
      rw [ha, hb] at hrecord
      cases hrecord with
      | some hab =>
        refine ⟨h.id, h.file, rfl, h.result, .some ?_⟩
        exact ⟨hab.run, hab.fileId, hab.filename, congrArg reply.script.or hab.script,
          congrArg reply.dataSummary.or hab.dataSummary, hab.processedRowCount, hab.lastError,
          ⟨hab.flags.1, fun _ => rfl, hab.flags.2.2⟩⟩
  | execute fileId reply a ha =>
    cases hadvance' with
    | execute _ _ b hb =>
      rw [ha, hb] at hrecord
      cases hrecord with
      | some hab =>
        refine ⟨h.id, h.file, rfl, h.result, .some ?_⟩
        exact ⟨hab.run, hab.fileId, hab.filename, hab.script, hab.dataSummary, rfl, hab.lastError,
          ⟨hab.flags.1, hab.flags.2.1, fun _ => rfl, hab.flags.2.2.2⟩⟩
  | result fileId table a hid ha =>
    cases hadvance' with
    | result _ _ b hid' hb =>
      rw [ha, hb] at hrecord
      cases hrecord with
      | some hab =>
        refine ⟨h.id, rfl, rfl, rfl, .some ?_⟩
        exact ⟨hab.run, hab.fileId, hab.filename, hab.script, hab.dataSummary,
          hab.processedRowCount, hab.lastError,
          ⟨hab.flags.1, hab.flags.2.1, hab.flags.2.2.1, fun _ => rfl⟩⟩

/-- An answer keeps a sound run raised: it is accepted by both runs, or by neither. -/
theorem conclude (h : r.RaisedTo r') (hsound : r.Sound) {stage : Stage} {c : Call}
    (hphase : r.phase = stage.busyPhase) (hc : r.request? stage = some c) (answer : Answer c) :
    (r.conclude stage c answer).RaisedTo (r'.conclude stage c answer) := by
  have hphase' : r'.phase = stage.busyPhase := h.phase.trans hphase
  have hc' : r'.request? stage = some c := (h.request? stage).trans hc
  rcases hsound.conclude_cases hphase hc answer with
    ⟨e, hfailure, hconclude⟩ | ⟨reply, hanswer, hreply, hadvance⟩ <;>
  rcases (hsound.raise h).conclude_cases hphase' hc' answer with
    ⟨e', hfailure', hconclude'⟩ | ⟨reply', hanswer', hreply', hadvance'⟩
  · have hsame : (Flight.mk r c (some answer)).failure? = (Flight.mk r' c (some answer)).failure? :=
      Flight.failure?_eq_of_asked rfl
    obtain rfl : e = e' := Option.some.inj (hfailure.symm.trans (hsame.trans hfailure'))
    rw [hconclude, hconclude']
    exact h.fail stage e
  -- What the service says and the checks find does not depend on the run, so it cannot differ.
  · exact absurd ⟨reply', congrArg some hanswer', hreply'⟩ (Flight.not_accepted_of_failure? hfailure)
  · exact absurd ⟨reply, congrArg some hanswer, hreply⟩ (Flight.not_accepted_of_failure? hfailure')
  · obtain rfl : reply = reply' := Except.ok.inj (hanswer.symm.trans hanswer')
    exact h.advance hadvance hadvance'

end RaisedTo

section Answering

variable {σ τ : Type} (refreshes : Surroundings τ) (answers : (c : Call) → σ → Option (Answer c) × σ)

/-- A stage call is answered from the memory for stage calls. -/
theorem call_answering_eq_iff {c : Call} {seen : Snapshot} {t : σ × τ} {answer : Option (Answer c)}
    {s : σ} {u : τ} :
    (refreshes.answering answers).call c seen t = (answer, s, u) ↔
      answers c t.1 = (answer, s) ∧ (refreshes.call c seen t.2).2 = u := by
  simp [Surroundings.answering, Prod.ext_iff, and_assoc]

/-- The end of a stage does not reach the answers to stage calls. -/
theorem finishStage_answering (r : Run) (t : σ × τ) :
    (r.finishStage (refreshes.answering answers) t).2.1 = t.1 := by
  unfold finishStage order
  cases r.nextTicket? <;> rfl

end Answering

/-- A run that expects no refreshes takes none. -/
theorem receiveAll_of_pending_eq_nil {r : Run} (h : r.pending = []) (arrivals : List Arrival) :
    r.receiveAll arrivals = r := by
  induction arrivals with
  | nil => rfl
  | cons a rest ih =>
    have hreceive : r.receive a = r := by simp [receive, h]
    change (r.receive a).receiveAll rest = r
    rw [hreceive, ih]

namespace Beside

variable {r r' : Run}

/-- The second run may be raised further. -/
theorem raise (h : r.Beside r') {r'' : Run} (hr : r'.RaisedTo r'') : r.Beside r'' :=
  ⟨h.sound, h.refreshing, h.pending, h.raised.trans hr⟩

/-- Publishing the first run changes nothing. -/
theorem publish (h : r.Beside r') : r.publish.Beside r' where
  sound := h.sound.raise (.publish r)
  refreshing := h.refreshing
  pending := h.pending
  raised := ⟨h.raised.id, h.raised.file, h.raised.phase, h.raised.result, h.raised.record⟩

/-- Two runs that have not begun are side by side. -/
theorem fresh : (Run.fresh false).Beside (Run.fresh true) :=
  ⟨.of_idle rfl rfl rfl, rfl, rfl, .of_eq rfl rfl rfl rfl rfl⟩

/-- Clearing both runs keeps them side by side. -/
theorem clear (h : r.Beside r') : r.clear.Beside r'.clear :=
  ⟨.of_idle rfl rfl rfl, h.refreshing, rfl, h.raised.clear⟩

/-- Staging a file in both runs keeps them side by side. -/
theorem stageFile (h : r.Beside r') (file : SourceFile) :
    (r.stageFile file).1.Beside (r'.stageFile file).1 := by
  refine ⟨h.sound.stageFile file, ?_, ?_, h.raised.stageFile file⟩
  · unfold Run.stageFile
    split
    · exact h.refreshing
    · dsimp only
      split <;> exact h.refreshing
  · unfold Run.stageFile
    split
    · exact h.pending
    · dsimp only
      split
      · rfl
      · exact h.pending

/-- Resuming both runs keeps them side by side. -/
theorem resume (h : r.Beside r') : r.resume.Beside r'.resume := by
  cases hphase : r.phase with
  | failed stage message =>
    refine ⟨h.sound.resume hphase, ?_, ?_, h.raised.resume⟩
    · rw [resume_of_failed hphase]
      exact h.refreshing
    · rw [resume_of_failed hphase]
      exact h.pending
  | _ =>
    have hfailed : r.phase.failedStage? = none := by rw [hphase]; rfl
    rwa [resume_of_failedStage?_eq_none hfailed,
      resume_of_failedStage?_eq_none (h.raised.phase ▸ hfailed)]

/-- Beginning a stage in both runs keeps them side by side. -/
theorem enter (h : r.Beside r') {stage : Stage} {c : Call} (hphase : r.phase = stage.resumePhase)
    (hc : r.request? stage = some c) : (r.enter stage).Beside (r'.enter stage) :=
  ⟨h.sound.enter hphase hc, h.refreshing, h.pending, h.raised.enter stage⟩

/-- The same answer to both runs keeps them side by side. -/
theorem conclude (h : r.Beside r') {stage : Stage} {c : Call} (hphase : r.phase = stage.busyPhase)
    (hc : r.request? stage = some c) (answer : Answer c) :
    (r.conclude stage c answer).Beside (r'.conclude stage c answer) := by
  have hraised := h.raised.conclude h.sound hphase hc answer
  rcases h.sound.conclude_cases hphase hc answer with ⟨e, -, hconclude⟩ | ⟨reply, -, -, hadvance⟩
  · rw [hconclude] at hraised ⊢
    exact ⟨h.sound.fail hphase e, h.refreshing, h.pending, hraised⟩
  · obtain ⟨-, -, hrefreshing, hpending⟩ := hadvance.refreshes
    exact ⟨h.sound.advance hphase hc hadvance, hrefreshing.trans h.refreshing,
      hpending.trans h.pending, hraised⟩

section Operations

variable {σ τ τ' : Type} (env : Surroundings τ) (env' : Surroundings τ')

/-- The end of a stage keeps two runs side by side, whatever refreshes come back in the second. -/
theorem finishStage (h : r.Beside r') (t : τ) (t' : τ') :
    (r.finishStage env t).1.Beside (r'.finishStage env' t').1 := by
  have hfinish : (r.finishStage env t).1 = r.publish := by
    simp [Run.finishStage, Run.order, nextTicket?, h.refreshing,
      receiveAll_of_pending_eq_nil h.pending]
  rw [hfinish]
  exact h.publish.raise (.finishStage env' r' t')

/-- Waiting for refreshes keeps two runs side by side, whatever comes back in the second. -/
theorem settle (h : r.Beside r') (t : τ) (t' : τ') :
    (r.settle env t).1.Beside (r'.settle env' t').1 := by
  have hsettle : (r.settle env t).1 = r.publish := by
    simp [Run.settle, Run.publish, snapshot, receiveAll_of_pending_eq_nil h.pending, h.pending]
  rw [hsettle]
  exact h.publish.raise (.settle env' r' t')

end Operations

section Answering

variable {σ τ τ' : Type} (answers : (c : Call) → σ → Option (Answer c) × σ)
  (plain : Surroundings τ) (refreshed : Surroundings τ')

/-- Steps of both runs make the same call, and go side by side. -/
theorem step (h : r.Beside r') {t : σ × τ} {t' : σ × τ'} (ht : t'.1 = t.1) :
    Together (r.step (plain.answering answers) t) (r'.step (refreshed.answering answers) t') ∧
      List.Forall₂ Flight.AgreesWith (r.flight? (plain.answering answers) t).toList
        (r'.flight? (refreshed.answering answers) t').toList := by
  rcases step_cases (plain.answering answers) r t with ⟨hnext, hflight, hstep⟩ |
    ⟨hphase, hfile, hflight, hstep⟩ | ⟨stage, c, hphase, hc,
      ⟨⟨s, u⟩, hcall, hflight, hstep⟩ | ⟨answer, ⟨s, u⟩, hcall, hflight, hstep⟩⟩
  · obtain ⟨hflight', hstep'⟩ := step_of_nextStage?_eq_none (refreshed.answering answers)
      (h.raised.phase ▸ hnext) t'
    rw [hflight, hstep, hflight', hstep']
    exact ⟨⟨rfl, h, ht⟩, .nil⟩
  · obtain ⟨hflight', hstep'⟩ := step_of_file_eq_none (refreshed.answering answers)
      (h.raised.phase.trans hphase) (h.raised.file.trans hfile) t'
    rw [hflight, hstep, hflight', hstep']
    exact ⟨⟨rfl, h, ht⟩, .nil⟩
  all_goals
    have hphase' := h.raised.phase.trans hphase
    have hc' := (h.raised.request? stage).trans hc
    have henter := h.enter hphase hc
    obtain ⟨hanswer, -⟩ := (call_answering_eq_iff plain answers).mp hcall
    rw [← ht] at hanswer
    have hcall' := (call_answering_eq_iff refreshed answers).mpr
      ⟨hanswer, Eq.refl (refreshed.call c (r'.enter stage).published t'.2).2⟩
  · obtain ⟨hflight', hstep'⟩ := step_of_call_eq_none _ hphase' hc' hcall'
    rw [hflight, hstep, hflight', hstep']
    exact ⟨⟨rfl, henter, rfl⟩, .cons ⟨rfl, henter.raised⟩ .nil⟩
  · obtain ⟨hflight', hstep'⟩ := step_of_call_eq_some _ hphase' hc' hcall'
    rw [hflight, hstep, hflight', hstep']
    refine ⟨⟨rfl, (henter.conclude rfl hc answer).finishStage _ _ _ _, ?_⟩,
      .cons ⟨rfl, henter.raised⟩ .nil⟩
    rw [finishStage_answering, finishStage_answering]

/-- A step of the first run has its counterpart in the second. -/
theorem exists_step (h : r.Beside r') {t t₁ : σ × τ} {t' : σ × τ'} (ht : t'.1 = t.1)
    {ending : Ending Bool} {r₁ : Run}
    (hstep : r.step (plain.answering answers) t = (ending, r₁, t₁)) :
    ∃ r₁' t₁', r'.step (refreshed.answering answers) t' = (ending, r₁', t₁') ∧ r₁.Beside r₁' ∧
      t₁'.1 = t₁.1 := by
  obtain ⟨⟨hreturned, hbeside, hanswers⟩, -⟩ := h.step answers plain refreshed ht
  rw [hstep] at hreturned hbeside hanswers
  exact ⟨_, _, Prod.ext hreturned rfl, hbeside, hanswers⟩

/-- Carrying out the stages of both runs makes the same calls, and goes side by side. -/
theorem runStages (h : r.Beside r') {t : σ × τ} {t' : σ × τ'} (ht : t'.1 = t.1) :
    Together (r.runStages (plain.answering answers) t)
        (r'.runStages (refreshed.answering answers) t') ∧
      List.Forall₂ Flight.AgreesWith (r.flights (plain.answering answers) t)
        (r'.flights (refreshed.answering answers) t') := by
  induction r, t using runStages.induct (plain.answering answers) generalizing r' t' with
  | case1 r t r₁ t₁ hstep ih =>
    obtain ⟨-, hflight⟩ := h.step answers plain refreshed ht
    obtain ⟨r₁', t₁', hstep', hbeside, hanswers⟩ := h.exists_step answers plain refreshed ht hstep
    obtain ⟨htogether, hflights⟩ := ih hbeside hanswers
    rw [runStages_eq, runStages_eq _ r', flights_eq, flights_eq _ r', hstep, hstep']
    exact ⟨htogether, List.rel_append hflight hflights⟩
  | case2 r t r₁ t₁ hstep =>
    obtain ⟨-, hflight⟩ := h.step answers plain refreshed ht
    obtain ⟨r₁', t₁', hstep', hbeside, hanswers⟩ := h.exists_step answers plain refreshed ht hstep
    rw [runStages_eq, runStages_eq _ r', flights_eq, flights_eq _ r', hstep, hstep',
      List.append_nil, List.append_nil]
    exact ⟨⟨congrArg Ending.done hbeside.raised.phase, hbeside, hanswers⟩, hflight⟩
  | case3 r t f r₁ t₁ hstep | case4 r t r₁ t₁ hstep =>
    obtain ⟨-, hflight⟩ := h.step answers plain refreshed ht
    obtain ⟨r₁', t₁', hstep', hbeside, hanswers⟩ := h.exists_step answers plain refreshed ht hstep
    rw [runStages_eq, runStages_eq _ r', flights_eq, flights_eq _ r', hstep, hstep',
      List.append_nil, List.append_nil]
    exact ⟨⟨rfl, hbeside, hanswers⟩, hflight⟩

/-- Every operation on both runs makes the same calls and returns the same, and they stay side by
side. -/
theorem perform (h : r.Beside r') {t : σ × τ} {t' : σ × τ'} (ht : t'.1 = t.1) (op : Operation) :
    Together (r.perform (plain.answering answers) t op)
        (r'.perform (refreshed.answering answers) t' op) ∧
      List.Forall₂ Flight.AgreesWith (r.flightsOf (plain.answering answers) t op)
        (r'.flightsOf (refreshed.answering answers) t' op) := by
  cases op with
  | stageFile file =>
    exact ⟨⟨congrArg Outcome.staged (h.raised.stageFile_reply file), h.stageFile file, ht⟩, .nil⟩
  | clear => exact ⟨⟨rfl, h.clear, ht⟩, .nil⟩
  | settle => exact ⟨⟨rfl, h.settle _ _ _ _, ht⟩, .nil⟩
  | step =>
    obtain ⟨⟨hreturned, hbeside, hanswers⟩, hflight⟩ := h.step answers plain refreshed ht
    exact ⟨⟨congrArg Outcome.stepped hreturned, hbeside, hanswers⟩, hflight⟩
  | start =>
    simp only [Run.perform, flightsOf, start_eq, h.raised.phase]
    split
    · obtain ⟨⟨hreturned, hbeside, hanswers⟩, hflights⟩ :=
        h.resume.runStages answers plain refreshed ht
      exact ⟨⟨congrArg Outcome.started hreturned, hbeside, hanswers⟩, hflights⟩
    · exact ⟨⟨rfl, h, ht⟩, .nil⟩

/-- The histories of two runs side by side agree entry by entry. -/
theorem history (h : r.Beside r') {t : σ × τ} {t' : σ × τ'} (ht : t'.1 = t.1)
    (ops : List Operation) :
    List.Forall₂ Entry.AgreesWith (Run.history (plain.answering answers) ops r t)
      (Run.history (refreshed.answering answers) ops r' t') := by
  induction ops generalizing r r' t t' with
  | nil => exact .nil
  | cons op ops ih =>
    obtain ⟨⟨hreturned, hbeside, hanswers⟩, hflights⟩ := h.perform answers plain refreshed ht op
    exact .cons ⟨rfl, hflights, hreturned, hbeside.raised⟩ (ih hbeside hanswers)

end Answering

end Beside

/-- Refreshes do not influence a run. For any operations and any answers to the stage calls, the
history of a run that orders refreshes agrees with that of a run that orders none, whatever the
refreshes say and whenever they come back. -/
theorem history_agrees_of_refreshing {σ τ τ' : Type}
    (answers : (c : Call) → σ → Option (Answer c) × σ) (plain : Surroundings τ)
    (refreshed : Surroundings τ') (ops : List Operation) (s : σ) (u : τ) (u' : τ') :
    List.Forall₂ Entry.AgreesWith (history (plain.answering answers) ops (fresh false) (s, u))
      (history (refreshed.answering answers) ops (fresh true) (s, u')) :=
  Beside.fresh.history answers plain refreshed rfl ops

end Run

end CsvCleaning
