import CsvCleaning.Proofs.Run.Settlement
import CsvCleaning.Proofs.Service.Rehearsal
import CsvCleaning.Run.Timeline

/-!
# Runs in rehearsal

A run and the rehearsal that it is made with are coupled: the record is about the file of the
rehearsal, and none of its flags is ahead of the rehearsal's progress. What refreshes report is
never ahead of it either. So all stages before the next one are complete in the rehearsal too, and
the call of the next one is refused for no reason of the rehearsal's own: the stage fails precisely
if it is told to, and the two are coupled after it again.
-/

namespace CsvCleaning

/-- The surroundings of a run in rehearsal. -/
abbrev rehearsal : Surroundings (Timeline Mock) :=
  Timeline.surroundings Mock.service

namespace Mock

/-- The second rehearsal is the first one after more calls. -/
def AfterCalls (m m' : Mock) : Prop :=
  ∃ calls, m' = { m with calls := m.calls ++ calls }

/-- No call has been made since. -/
protected theorem AfterCalls.refl (m : Mock) : m.AfterCalls m :=
  ⟨[], by rw [List.append_nil]⟩

/-- More calls follow the first ones. -/
protected theorem AfterCalls.trans {m m₁ m' : Mock} (h : m.AfterCalls m₁) (h' : m₁.AfterCalls m') :
    m.AfterCalls m' := by
  obtain ⟨calls, rfl⟩ := h
  obtain ⟨calls', rfl⟩ := h'
  exact ⟨calls ++ calls', by rw [List.append_assoc]⟩

/-- A call that is noted is one more. -/
theorem afterCalls_log (m : Mock) (c : Call) : m.AfterCalls (m.log c) :=
  ⟨[c.name], rfl⟩

end Mock

namespace Timeline

/-- The timeline after a call that left the rehearsal as it says. -/
def called (t : Timeline Mock) (c : Call) (seen : Phase) (m : Mock) : Timeline Mock :=
  { t.note c seen with service := m }

variable {t t' : Timeline Mock}

/-- A rehearsal without delay: no refresh is asleep, those that are ready wait for their turn to ask
about the file, which is uploaded, and what came back reported no more than there is. -/
structure Rehearsed (t : Timeline Mock) : Prop where
  prompt : t.service.delay = 0
  named : Text.allBlank t.service.fileId = false
  awake : t.asleep = []
  turns : ∀ w ∈ t.ready, w.awaited = .turn
  about : ∀ w ∈ t.ready, w.ticket.fileId = t.service.fileId ∧ t.service.progress.uploaded = true
  back : ∀ a ∈ t.back, ∀ report ∈ a.report, report.flags ≤ t.service.progress

namespace Rehearsed

/-- A rehearsal goes on with its refreshes if it names the same file without a delay and takes no
progress back. -/
theorem congr (h : t.Rehearsed) (hdelay : t'.service.delay = t.service.delay)
    (hfileId : t'.service.fileId = t.service.fileId)
    (hprogress : t.service.progress ≤ t'.service.progress) (hready : t'.ready ⊆ t.ready)
    (hasleep : t'.asleep = t.asleep) (hback : t'.back ⊆ t.back) : t'.Rehearsed where
  prompt := hdelay.trans h.prompt
  named := by rw [hfileId]; exact h.named
  awake := hasleep.trans h.awake
  turns := fun w hw => h.turns w (hready hw)
  about := fun w hw => by
    obtain ⟨habout, huploaded⟩ := h.about w (hready hw)
    exact ⟨habout.trans hfileId.symm, hprogress.1 huploaded⟩
  back := fun a ha report hreport => Flags.le_trans (h.back a (hback ha) report hreport) hprogress

/-- Without a delay a stage call is answered at once. -/
theorem call_eq (h : t.Rehearsed) (c : Call) (seen : Phase) :
    t.call Mock.service c seen =
      (some (Mock.answer c (t.service.log c)).1,
        t.called c seen (Mock.answer c (t.service.log c)).2) := by
  have hreceive := Mock.receive_of_no_delay h.prompt c
  simp only [call, called, note, hreceive]

/-- A call after which no less is complete keeps the rehearsal. -/
theorem called (h : t.Rehearsed) (c : Call) (seen : Phase) {m : Mock}
    (hdelay : m.delay = t.service.delay) (hfileId : m.fileId = t.service.fileId)
    (hprogress : t.service.progress ≤ m.progress) : (t.called c seen m).Rehearsed :=
  h.congr hdelay hfileId hprogress (List.Subset.refl _) rfl (List.Subset.refl _)

/-- A refresh whose turn it is comes back at once with what the status is answered with. -/
theorem advance_eq (h : t.Rehearsed) (seen : Phase) {w : ReadyRefresh} (hw : w.awaited = .turn) :
    t.advance Mock.service seen w =
      (t.called (.status w.ticket.fileId) seen
        (t.service.log (.status w.ticket.fileId))).comeBack w.ticket
          (report? w.ticket.fileId
            (Mock.answer (.status w.ticket.fileId) (t.service.log (.status w.ticket.fileId))).1) := by
  have hreceive := Mock.receive_of_no_delay h.prompt (.status w.ticket.fileId)
  rw [Mock.answer_status_eq] at hreceive
  simp only [Timeline.advance, hw, Timeline.called, note, hreceive, Mock.answer_status_eq]

/-- A refresh that comes back reports no more than there is. -/
theorem comeBack (h : t.Rehearsed) (ticket : Ticket) {report : Option StatusReport}
    (hreport : ∀ r ∈ report, r.flags ≤ t.service.progress) :
    (t.comeBack ticket report).Rehearsed where
  prompt := h.prompt
  named := h.named
  awake := h.awake
  turns := h.turns
  about := h.about
  back := by
    intro a ha r hr
    rcases List.mem_append.mp ha with ha | ha
    · exact h.back a ha r hr
    · rw [List.mem_singleton.mp ha] at hr
      exact hreport r hr

/-- A refresh whose turn it is keeps the rehearsal, and makes one more call. -/
theorem advance (h : t.Rehearsed) (seen : Phase) {w : ReadyRefresh} (hw : w.awaited = .turn) :
    (t.advance Mock.service seen w).Rehearsed ∧
      (t.advance Mock.service seen w).ready = t.ready ∧
      t.service.AfterCalls (t.advance Mock.service seen w).service := by
  have hnoted := h.called (.status w.ticket.fileId) seen
    (m := t.service.log (.status w.ticket.fileId)) rfl rfl (Flags.le_refl _)
  rw [h.advance_eq seen hw]
  refine ⟨hnoted.comeBack _ fun report hreport => ?_, rfl, t.service.afterCalls_log _⟩
  cases hanswer : (Mock.answer (.status w.ticket.fileId)
      (t.service.log (.status w.ticket.fileId))).1 with
  | error f =>
    rw [hanswer] at hreport
    cases hreport
  | ok reply =>
    rw [hanswer] at hreport
    obtain rfl := Option.some.inj hreport
    exact Mock.flags_le_of_answer_status hanswer

/-- Refreshes whose turn it is keep the rehearsal, one after the other. -/
theorem foldl_advance (h : t.Rehearsed) (seen : Phase) {going : List ReadyRefresh}
    (hturns : ∀ w ∈ going, w.awaited = .turn) :
    (going.foldl (Timeline.advance Mock.service seen) t).Rehearsed ∧
      (going.foldl (Timeline.advance Mock.service seen) t).ready = t.ready ∧
      t.service.AfterCalls (going.foldl (Timeline.advance Mock.service seen) t).service := by
  induction going generalizing t with
  | nil => exact ⟨h, rfl, .refl _⟩
  | cons w rest ih =>
    obtain ⟨hw, hturns⟩ := List.forall_mem_cons.mp hturns
    obtain ⟨hfirst, hready, hcalls⟩ := h.advance seen hw
    obtain ⟨hrest, hready', hcalls'⟩ := ih hfirst hturns
    exact ⟨hrest, hready'.trans hready, hcalls.trans hcalls'⟩

/-- Letting the refreshes go on keeps the rehearsal; none waits any more. -/
theorem runReady (h : t.Rehearsed) (seen : Phase) :
    (t.runReady Mock.service seen).Rehearsed ∧ (t.runReady Mock.service seen).ready = [] ∧
      t.service.AfterCalls (t.runReady Mock.service seen).service := by
  have hempty : ({ t with ready := [] } : Timeline Mock).Rehearsed :=
    h.congr rfl rfl (Flags.le_refl _) (List.nil_subset _) rfl (List.Subset.refl _)
  exact hempty.foldl_advance seen h.turns

/-- Waiting for refreshes keeps the rehearsal. -/
theorem settleAll (h : t.Rehearsed) (seen : Phase) (tickets : List Ticket) (steps : Nat) :
    (t.settleAll Mock.service seen tickets steps).Rehearsed ∧
      t.service.AfterCalls (t.settleAll Mock.service seen tickets steps).service := by
  obtain ⟨hready, -, hcalls⟩ := h.runReady seen
  cases steps with
  | zero => exact ⟨h, .refl _⟩
  | succ steps =>
    -- With nothing asleep there is nothing to wake: one round is all.
    have hdue : (t.runReady Mock.service seen).nextDue? = none := by
      rw [nextDue?, hready.awake]
      rfl
    unfold Timeline.settleAll
    dsimp only
    rw [hdue]
    split
    · exact ⟨h, .refl _⟩
    · split <;> exact ⟨hready, hcalls⟩

/-- Handing over what came back keeps the rehearsal. -/
theorem handOver (h : t.Rehearsed) : t.handOver.2.Rehearsed :=
  h.congr rfl rfl (Flags.le_refl _) (List.Subset.refl _) rfl (List.nil_subset _)

/-- An order about the file keeps the rehearsal if the file is uploaded. -/
theorem order (h : t.Rehearsed) {ticket : Ticket} (habout : ticket.fileId = t.service.fileId)
    (huploaded : t.service.progress.uploaded = true) : (rehearsal.order ticket t).Rehearsed where
  prompt := h.prompt
  named := h.named
  awake := h.awake
  turns := by
    intro w hw
    rcases List.mem_append.mp hw with hw | hw
    · exact h.turns w hw
    · rw [List.mem_singleton.mp hw]
  about := by
    intro w hw
    rcases List.mem_append.mp hw with hw | hw
    · exact h.about w hw
    · rw [List.mem_singleton.mp hw]
      exact ⟨habout, huploaded⟩
  back := h.back

end Rehearsed

end Timeline

namespace Run

/-- A run and its rehearsal fit: the record is about the file of the rehearsal, and no flag of it is
ahead of the rehearsal. -/
structure Coupled (r : Run) (t : Timeline Mock) : Prop where
  sound : r.Sound
  rehearsed : t.Rehearsed
  fileId : ∀ a ∈ r.record, a.fileId = t.service.fileId
  flags : ∀ a ∈ r.record, a.flags ≤ t.service.progress

namespace Coupled

variable {r r' : Run} {t t' : Timeline Mock}

/-- A change that raises no flag of the record and takes no progress back keeps the two coupled. -/
theorem congr (h : Coupled r t) (hsound : r'.Sound)
    (hrecord : ∀ b ∈ r'.record, ∃ a ∈ r.record, b.fileId = a.fileId ∧ b.flags = a.flags)
    (hrehearsed : t'.Rehearsed) (hfileId : t'.service.fileId = t.service.fileId)
    (hprogress : t.service.progress ≤ t'.service.progress) : Coupled r' t' where
  sound := hsound
  rehearsed := hrehearsed
  fileId := by
    intro b hb
    obtain ⟨a, ha, hid, -⟩ := hrecord b hb
    rw [hid, hfileId]
    exact h.fileId a ha
  flags := by
    intro b hb
    obtain ⟨a, ha, -, hflags⟩ := hrecord b hb
    rw [hflags]
    exact Flags.le_trans (h.flags a ha) hprogress

/-- A change of the run that raises no flag of the record keeps the two coupled. -/
theorem run (h : Coupled r t) (hsound : r'.Sound)
    (hrecord : ∀ b ∈ r'.record, ∃ a ∈ r.record, b.fileId = a.fileId ∧ b.flags = a.flags) :
    Coupled r' t :=
  h.congr hsound hrecord h.rehearsed rfl (Flags.le_refl _)

/-- A change of the rehearsal that takes no progress back keeps the two coupled. -/
theorem surroundings (h : Coupled r t) (hrehearsed : t'.Rehearsed)
    (hfileId : t'.service.fileId = t.service.fileId)
    (hprogress : t.service.progress ≤ t'.service.progress) : Coupled r t' :=
  h.congr h.sound (fun b hb => ⟨b, hb, rfl, rfl⟩) hrehearsed hfileId hprogress

/-- More calls keep the two coupled. -/
theorem afterCalls (h : Coupled r t) (hrehearsed : t'.Rehearsed)
    (hcalls : t.service.AfterCalls t'.service) : Coupled r t' := by
  obtain ⟨calls, hservice⟩ := hcalls
  refine h.surroundings hrehearsed ?_ ?_ <;> rw [hservice]
  exact Flags.le_refl _

/-- Handing over what came back keeps the two coupled. -/
theorem handOver (h : Coupled r t) : Coupled r t.handOver.2 :=
  h.surroundings h.rehearsed.handOver rfl (Flags.le_refl _)

/-- Publishing keeps the two coupled. -/
theorem publish (h : Coupled r t) : Coupled r.publish t :=
  h.run (h.sound.raise (.publish r)) fun b hb => ⟨b, hb, rfl, rfl⟩

/-- All stages before the next one are complete in the rehearsal too. -/
theorem upTo_le (h : Coupled r t) : Flags.upTo r.phase.completed ≤ t.service.progress := by
  cases hrecord : r.record with
  | some a => exact Flags.le_trans (h.sound.flags a hrecord) (h.flags a hrecord)
  | none =>
    have hnone : ¬ 0 < r.phase.completed := fun hpos => by
      have hsome := h.sound.record.mpr hpos
      simp [hrecord] at hsome
    have hzero : r.phase.completed = 0 := by omega
    rw [hzero, Flags.upTo_le_iff]
    simp

/-- A record is there only if the file is uploaded in the rehearsal. -/
theorem uploaded (h : Coupled r t) {a : Record} (ha : r.record = some a) :
    t.service.progress.uploaded = true := by
  have hpos : 0 < r.phase.completed := h.sound.record.mp (by rw [ha]; rfl)
  exact (Flags.upTo_le_iff.mp h.upTo_le).1 hpos

/-- The call of a stage is about the file of the rehearsal. -/
theorem argument (h : Coupled r t) {stage : Stage} {c : Call}
    (hphase : r.phase.completed = stage.index) (hc : r.request? stage = some c)
    (hstage : stage ≠ .upload) : c.argument = t.service.fileId := by
  have hpos : 0 < r.phase.completed := by
    rw [hphase]
    cases stage <;> first | exact absurd rfl hstage | decide
  obtain ⟨a, ha⟩ := h.sound.exists_record hpos
  have hid : r.fileId = t.service.fileId := by
    rw [Run.fileId, ha]
    exact h.fileId a ha
  cases stage with
  | upload => exact absurd rfl hstage
  | process | execute | result =>
    obtain rfl := Option.some.inj hc
    exact hid

/-- Taking refreshes that report no more than there is keeps the two coupled. -/
theorem receiveAll (h : Coupled r t) {arrivals : List Arrival}
    (hback : ∀ a ∈ arrivals, ∀ report ∈ a.report, report.flags ≤ t.service.progress) :
    Coupled (r.receiveAll arrivals) t where
  sound := h.sound.raise (.receiveAll r arrivals)
  rehearsed := h.rehearsed
  fileId := by
    intro b hb
    rw [record_receiveAll] at hb
    obtain ⟨a, ha, rfl⟩ := Option.map_eq_some_iff.mp hb
    rw [(Record.RaisedTo.foldl_mergeStatus a (r.taken arrivals)).fileId]
    exact h.fileId a ha
  flags := by
    intro b hb
    rw [record_receiveAll] at hb
    obtain ⟨a, ha, rfl⟩ := Option.map_eq_some_iff.mp hb
    refine Record.flags_foldl_mergeStatus_le (h.flags a ha) fun report hreport _ => ?_
    obtain ⟨arrival, harrival, -, hreported⟩ := exists_of_mem_taken hreport
    exact hback arrival harrival report hreported

/-- Ordering a refresh keeps the two coupled. -/
theorem order (h : Coupled r t) :
    Coupled (r.order rehearsal t).1 (r.order rehearsal t).2 ∧
      (r.order rehearsal t).2.service = t.service := by
  unfold Run.order
  split
  · rename_i ticket hticket
    obtain ⟨-, hticket⟩ := Option.ite_none_right_eq_some.mp hticket
    obtain ⟨a, ha, rfl⟩ := Option.map_eq_some_iff.mp hticket
    have hordered : (rehearsal.order ⟨r.ordered, r.id, a.fileId⟩ t).Rehearsed :=
      h.rehearsed.order (h.fileId a ha) (h.uploaded ha)
    refine ⟨h.congr (h.sound.raise (.of_eq rfl rfl rfl rfl rfl)) (fun b hb => ⟨b, hb, rfl, rfl⟩)
      hordered rfl (Flags.le_refl _), rfl⟩
  · exact ⟨h, rfl⟩

/-- The end of a stage keeps the two coupled. -/
theorem finishStage (h : Coupled r t) :
    Coupled (r.finishStage rehearsal t).1 (r.finishStage rehearsal t).2 ∧
      (r.finishStage rehearsal t).2.service = t.service := by
  obtain ⟨hordered, hservice⟩ := h.order
  exact ⟨(hordered.receiveAll hordered.rehearsed.back).handOver.publish, hservice⟩

/-- Beginning a stage keeps the two coupled. -/
theorem enter (h : Coupled r t) {stage : Stage} {c : Call} (hphase : r.phase = stage.resumePhase)
    (hc : r.request? stage = some c) : Coupled (r.enter stage) t :=
  h.run (h.sound.enter hphase hc) fun b hb => ⟨b, hb, rfl, rfl⟩

/-- A stage that is told to fail does, and the two stay coupled. -/
theorem call_of_failure (h : Coupled r t) {stage : Stage} {c : Call} {f : Failure}
    (hphase : r.phase = stage.busyPhase) (hc : r.request? stage = some c)
    (hfailure : t.service.failures stage = some f) (seen : Phase) :
    ∃ t', t.call Mock.service c seen = (some (.error f), t') ∧ Coupled (r.fail stage f) t' ∧
      t'.service.failures = t.service.failures := by
  have hanswer := Mock.answer_of_failure (m := t.service.log c) (stage?_of_request? hc) hfailure
  have hcalled := h.rehearsed.called c seen (m := t.service.log c) rfl rfl (Flags.le_refl _)
  refine ⟨t.called c seen (t.service.log c), by rw [h.rehearsed.call_eq, hanswer], ?_, rfl⟩
  refine (h.afterCalls hcalled (t.service.afterCalls_log c)).run (h.sound.fail hphase f) ?_
  intro b hb
  obtain ⟨a, ha, rfl⟩ := Option.map_eq_some_iff.mp hb
  exact ⟨a, ha, rfl, rfl⟩

/-- The record after an accepted reply of a rehearsal is about its file. -/
theorem fileId_of_advance {stage : Stage} {c : Call} {reply : c.Reply} {m : Mock}
    (hadvance : Advance r stage c reply r') (hanswer : (Mock.answer c m).1 = .ok reply)
    (hfileId : ∀ a ∈ r.record, a.fileId = m.fileId) : ∀ b ∈ r'.record, b.fileId = m.fileId := by
  intro b hb
  cases hadvance with
  | upload file reply hid =>
    obtain rfl := Option.some.inj hb
    exact Mock.fileId_of_upload hanswer
  | process _ _ a _ ha | execute _ _ a ha | result _ _ a _ ha =>
    obtain rfl := Option.some.inj hb
    exact hfileId a ha

/-- A stage that is not told to fail succeeds on both sides, and the two stay coupled. -/
theorem call_of_success (h : Coupled r t) {stage : Stage} {c : Call}
    (hphase : r.phase = stage.busyPhase) (hc : r.request? stage = some c)
    (hfailure : t.service.failures stage = none) (seen : Phase) :
    ∃ reply t', t.call Mock.service c seen = (some (.ok reply), t') ∧ c.refusal? reply = none ∧
      Coupled (r.conclude stage c (.ok reply)) t' ∧ t'.service.failures = t.service.failures ∧
      (r.conclude stage c (.ok reply)).phase = stage.donePhase := by
  have hn : r.phase.completed = stage.index := by rw [hphase, Stage.completed_busyPhase]
  obtain ⟨reply, hanswer, hrefusal⟩ := Mock.answer_of_turn (m := t.service.log c)
    h.rehearsed.named (stage?_of_request? hc) (hn ▸ h.upTo_le) (h.argument hn hc) hfailure
  obtain ⟨r', haccept, hadvance⟩ := h.sound.accept_of_refusal?_eq_none hphase hc hrefusal
  have hconclude : r.conclude stage c (.ok reply) = r' := by
    simp only [Run.conclude, bind, Except.bind, haccept]
  have hprogress : t.service.progress ≤ ((t.service.log c).complete stage).progress :=
    Flags.le_join_left _ _
  have hflag : stage.flag ≤ ((t.service.log c).complete stage).progress := Flags.le_join_right _ _
  refine ⟨reply, t.called c seen ((t.service.log c).complete stage),
    by rw [h.rehearsed.call_eq, hanswer], hrefusal, ?_, rfl, by rw [hconclude]; exact hadvance.phase⟩
  have hfileId := fileId_of_advance (m := t.service.log c) hadvance (congrArg Prod.fst hanswer)
    h.fileId
  rw [hconclude]
  refine ⟨h.sound.advance hphase hc hadvance, h.rehearsed.called c seen rfl rfl hprogress, hfileId,
    fun b hb => ?_⟩
  rcases hadvance.flags hb with ⟨-, hflags⟩ | ⟨a, ha, -, hflags⟩
  · rw [hflags]
    exact hflag
  · rw [hflags]
    exact Flags.join_le_iff.mpr ⟨Flags.le_trans (h.flags a ha) hprogress, hflag⟩

end Coupled

end Run

end CsvCleaning
