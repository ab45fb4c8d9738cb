import CsvCleaning.Proofs.Flags
import CsvCleaning.Proofs.Run.Mirroring
import CsvCleaning.Proofs.Run.Turns

/-!
# Orders and returns

The refreshes that a run orders and those that come back can be noted down beside the surroundings,
and nothing else depends on it. Whatever the surroundings do, the orders are numbered one after the
other and none is ahead of the run; and the flags of the record are no more than those of the
complete stages and those that came back in reports for this run about its file.
-/

namespace CsvCleaning

/-- The refreshes that were ordered and those that came back, in their order. -/
structure RefreshLog where
  orders : List Ticket
  back : List Arrival

namespace RefreshLog

/-- Nothing has been ordered. -/
def empty : RefreshLog :=
  ⟨[], []⟩

/-- Note an order. -/
def note (log : RefreshLog) (ticket : Ticket) : RefreshLog :=
  { log with orders := log.orders ++ [ticket] }

/-- Note refreshes that came back. -/
def comeBack (log : RefreshLog) (arrivals : List Arrival) : RefreshLog :=
  { log with back := log.back ++ arrivals }

/-- The reports that came back under the number of a run. -/
def reports (log : RefreshLog) (run : Nat) : List StatusReport :=
  (log.back.filter (·.ticket.run = run)).filterMap (·.report)

/-- The flags that were reported under the number of a run about a file. -/
def flags (log : RefreshLog) (run : Nat) (fileId : String) : List Flags :=
  ((log.reports run).filter (·.fileId = fileId)).map (·.flags)

/-- A report came back under the number of a run if it is that of a refresh with this number. -/
theorem mem_reports {log : RefreshLog} {run : Nat} {report : StatusReport} :
    report ∈ log.reports run ↔ ∃ a ∈ log.back, a.ticket.run = run ∧ a.report = some report := by
  simp [reports, and_assoc]

/-- Flags were reported if some report about the file has them. -/
theorem mem_flags {log : RefreshLog} {run : Nat} {fileId : String} {f : Flags} :
    f ∈ log.flags run fileId ↔
      ∃ report ∈ log.reports run, report.fileId = fileId ∧ report.flags = f := by
  simp [flags, and_assoc]

/-- What comes back adds its reports. -/
theorem reports_comeBack (log : RefreshLog) (arrivals : List Arrival) (run : Nat) :
    (log.comeBack arrivals).reports run =
      log.reports run ++ (arrivals.filter (·.ticket.run = run)).filterMap (·.report) := by
  simp [reports, comeBack]

/-- What comes back takes no flags away. -/
theorem flags_subset_comeBack (log : RefreshLog) (arrivals : List Arrival) (run : Nat)
    (fileId : String) : log.flags run fileId ⊆ (log.comeBack arrivals).flags run fileId := by
  simp [flags, reports_comeBack]

end RefreshLog

/-- The same surroundings, which also note down the refreshes that are ordered and those that come
back. -/
def Surroundings.noted {σ : Type} (env : Surroundings σ) : Surroundings (σ × RefreshLog) where
  call c seen t := ((env.call c seen t.1).1, (env.call c seen t.1).2, t.2)
  order ticket t := (env.order ticket t.1, t.2.note ticket)
  arrived t := ((env.arrived t.1).1, (env.arrived t.1).2, t.2.comeBack (env.arrived t.1).1)
  settle tickets seen t :=
    ((env.settle tickets seen t.1).1, (env.settle tickets seen t.1).2,
      t.2.comeBack (env.settle tickets seen t.1).1)

/-- Noting refreshes down mirrors the surroundings under the same numbers. -/
theorem Surroundings.mirrors_noted {σ : Type} (env : Surroundings σ) :
    env.Mirrors env.noted 0 0 fun s t => t.1 = s where
  call := by
    rintro s ⟨_, log⟩ rfl c seen
    simp [noted]
  order := by
    rintro s ⟨_, log⟩ rfl ticket
    simp [noted]
  arrived := by
    rintro s ⟨_, log⟩ rfl
    simp [noted]
  settle := by
    rintro s ⟨_, log⟩ rfl expected seen
    simp [noted]

namespace Run

section Noting

variable {σ : Type} (env : Surroundings σ)

/-- Noting refreshes down does not change a history. -/
theorem history_noted (ops : List Operation) (r : Run) (s : σ) (log : RefreshLog) :
    history env.noted ops r (s, log) = history env ops r s := by
  have hmirrored := history_mirrored env.mirrors_noted ops r (show (s, log).1 = s from rfl)
  have hsame : (history env ops r s).map (Entry.renumber 0 0) = history env ops r s := by
    conv_rhs => rw [← List.map_id (history env ops r s)]
    exact List.map_congr_left fun e _ => e.renumber_zero
  rw [renumber_zero] at hmirrored
  exact hmirrored.trans hsame

/-- Noting refreshes down does not change what operations lead to. -/
theorem operate_noted (ops : List Operation) (r : Run) (s : σ) (log : RefreshLog) :
    (operate env.noted ops r (s, log)).1 = (operate env ops r s).1 ∧
      (operate env.noted ops r (s, log)).2.1 = (operate env ops r s).2 := by
  have hmirrored := operate_mirrored env.mirrors_noted ops r (show (s, log).1 = s from rfl)
  rw [renumber_zero, renumber_zero] at hmirrored
  exact hmirrored

end Noting

end Run

/-- The flag of a stage. -/
def Stage.flag : Stage → Flags
  | .upload => { Flags.none with uploaded := true }
  | .process => { Flags.none with processed := true }
  | .execute => { Flags.none with executed := true }
  | .result => { Flags.none with ready := true }

/-- The flag of a stage is one of those of the first `n` stages if the stage is. -/
theorem Stage.flag_le_upTo {stage : Stage} {n : Nat} (h : stage.index < n) :
    stage.flag ≤ Flags.upTo n := by
  cases stage with
  | upload | process | execute | result =>
    refine ⟨?_, ?_, ?_, ?_⟩ <;> simp [Stage.flag, Flags.none, Flags.upTo]
    exact h

/-- The flags of fewer stages are fewer. -/
theorem Flags.upTo_mono {m n : Nat} (h : m ≤ n) : Flags.upTo m ≤ Flags.upTo n := by
  refine ⟨?_, ?_, ?_, ?_⟩ <;> simp only [Flags.upTo, decide_eq_true_eq] <;> omega

/-- Reports that are folded in raise a record no further than its own flags and those of the reports
about its file. -/
theorem Record.flags_foldl_mergeStatus_le {a : Record} {reports : List StatusReport} {f : Flags}
    (ha : a.flags ≤ f)
    (hreports : ∀ report ∈ reports, report.fileId = a.fileId → report.flags ≤ f) :
    (reports.foldl Record.mergeStatus a).flags ≤ f := by
  induction reports generalizing a with
  | nil => exact ha
  | cons report rest ih =>
    have hmerged : (a.mergeStatus report).flags ≤ f := by
      by_cases hid : report.fileId = a.fileId
      · rw [Record.flags_mergeStatus hid]
        have hreport := hreports report List.mem_cons_self hid
        exact Flags.le_trans (Flags.merge_le_join _ _) (Flags.join_le_iff.mpr ⟨ha, hreport⟩)
      · rwa [Record.mergeStatus_of_ne hid]
    refine ih hmerged fun report' hmem hid => ?_
    rw [Record.fileId_mergeStatus] at hid
    exact hreports report' (List.mem_cons_of_mem report hmem) hid

namespace Run

/-- An accepted reply adds the flag of the stage to those that the record had. -/
theorem Advance.flags {r r' : Run} {stage : Stage} {c : Call} {reply : c.Reply}
    (h : Advance r stage c reply r') {b : Record} (hb : r'.record = some b) :
    (stage = .upload ∧ b.flags = stage.flag) ∨
      ∃ a, r.record = some a ∧ b.fileId = a.fileId ∧ b.flags = a.flags.join stage.flag := by
  cases h with
  | upload file reply hid =>
    obtain rfl := Option.some.inj hb
    exact .inl ⟨rfl, rfl⟩
  | process fileId reply a hid ha | execute fileId reply a ha | result fileId table a hid ha =>
    obtain rfl := Option.some.inj hb
    exact .inr ⟨a, ha, rfl, by simp [Flags.join, Stage.flag, Flags.none, Record.touch]⟩

/-- An accepted reply leaves a record. -/
theorem Advance.record_ne_none {r r' : Run} {stage : Stage} {c : Call} {reply : c.Reply}
    (h : Advance r stage c reply r') : r'.record ≠ none := by
  cases h <;> simp

/-- What a run has to do with the refreshes that were noted: the orders are numbered one after the
other, none is ahead of the run, and every flag of the record is that of a complete stage or was
reported. -/
structure Accords (r : Run) (log : RefreshLog) : Prop where
  sound : r.Sound
  numbers : log.orders.map (·.number) = List.range r.ordered
  earlier : ∀ ticket ∈ log.orders, ticket.run ≤ r.id
  flags : ∀ a ∈ r.record, a.flags ≤
    (Flags.upTo r.phase.completed).join (Flags.joinAll (log.flags r.id a.fileId))

namespace Accords

variable {r r' : Run} {log : RefreshLog}

/-- A change that keeps the numbers, completes no stage less and adds no flag keeps the accord. -/
theorem congr (h : r.Accords log) (hsound : r'.Sound) (hid : r'.id = r.id)
    (hordered : r'.ordered = r.ordered) (hcompleted : r'.phase.completed = r.phase.completed)
    (hrecord : ∀ b ∈ r'.record, ∃ a ∈ r.record, b.fileId = a.fileId ∧ b.flags = a.flags) :
    r'.Accords log where
  sound := hsound
  numbers := by rw [hordered, h.numbers]
  earlier := by rw [hid]; exact h.earlier
  flags := by
    intro b hb
    obtain ⟨a, ha, hfileId, hflags⟩ := hrecord b hb
    rw [hid, hcompleted, hfileId, hflags]
    exact h.flags a ha

/-- A run without a record that is at a later number accords with the refreshes so far. -/
theorem renew (h : r.Accords log) (hsound : r'.Sound) (hid : r.id ≤ r'.id)
    (hordered : r'.ordered = r.ordered) (hrecord : r'.record = none) : r'.Accords log where
  sound := hsound
  numbers := by rw [hordered, h.numbers]
  earlier := fun ticket hticket => Nat.le_trans (h.earlier ticket hticket) hid
  flags := by simp [hrecord]

/-- Publishing keeps the accord. -/
theorem publish (h : r.Accords log) : r.publish.Accords log :=
  h.congr (h.sound.raise (.publish r)) rfl rfl rfl fun b hb => ⟨b, hb, rfl, rfl⟩

/-- Clearing keeps the accord. -/
theorem clear (h : r.Accords log) : r.clear.Accords log :=
  h.renew (.of_idle rfl rfl rfl) (Nat.le_succ r.id) rfl rfl

/-- Staging a file keeps the accord. -/
theorem stageFile (h : r.Accords log) (file : SourceFile) : (r.stageFile file).1.Accords log := by
  have hsound := h.sound.stageFile file
  revert hsound
  unfold Run.stageFile
  split
  · exact fun _ => h
  · dsimp only
    split
    · exact fun hsound => h.renew hsound (Nat.le_succ r.id) rfl rfl
    · exact fun hsound => h.congr hsound rfl rfl rfl fun b hb => ⟨b, hb, rfl, rfl⟩

/-- Resuming keeps the accord. -/
theorem resume (h : r.Accords log) {stage : Stage} {message : String}
    (hphase : r.phase = .failed stage message) : r.resume.Accords log := by
  have hsound := h.sound.resume hphase
  rw [resume_of_failed hphase] at hsound ⊢
  refine h.congr hsound rfl rfl ?_ ?_
  · rw [Stage.completed_resumePhase, hphase]
    rfl
  · intro b hb
    obtain ⟨a, ha, rfl⟩ := Option.map_eq_some_iff.mp hb
    exact ⟨a, ha, rfl, rfl⟩

/-- Beginning a stage keeps the accord. -/
theorem enter (h : r.Accords log) {stage : Stage} {c : Call} (hphase : r.phase = stage.resumePhase)
    (hc : r.request? stage = some c) : (r.enter stage).Accords log := by
  refine h.congr (h.sound.enter hphase hc) rfl rfl ?_ fun b hb => ⟨b, hb, rfl, rfl⟩
  rw [hphase, Stage.completed_resumePhase]
  exact stage.completed_busyPhase

/-- An answer keeps the accord: it completes the stage whose flag it raises. -/
theorem conclude (h : r.Accords log) {stage : Stage} {c : Call} (hphase : r.phase = stage.busyPhase)
    (hc : r.request? stage = some c) (answer : Answer c) :
    (r.conclude stage c answer).Accords log := by
  have hn : r.phase.completed = stage.index := by rw [hphase, Stage.completed_busyPhase]
  rcases h.sound.conclude_cases hphase hc answer with ⟨e, -, hfail⟩ | ⟨reply, -, -, hadvance⟩
  · rw [hfail]
    refine h.congr (h.sound.fail hphase e) rfl rfl hn.symm ?_
    intro b hb
    obtain ⟨a, ha, rfl⟩ := Option.map_eq_some_iff.mp hb
    exact ⟨a, ha, rfl, rfl⟩
  · obtain ⟨hid, hordered, -, -⟩ := hadvance.refreshes
    have hn' : (r.conclude stage c answer).phase.completed = stage.index + 1 := by
      rw [hadvance.phase, Stage.completed_donePhase]
    refine ⟨h.sound.advance hphase hc hadvance, by rw [hordered, h.numbers],
      by rw [hid]; exact h.earlier, ?_⟩
    intro b hb
    have hflag : stage.flag ≤ Flags.upTo (stage.index + 1) :=
      Stage.flag_le_upTo (Nat.lt_succ_self _)
    rw [hid, hn']
    rcases hadvance.flags hb with ⟨-, hflags⟩ | ⟨a, ha, hfileId, hflags⟩
    · rw [hflags]
      exact Flags.le_trans hflag (Flags.le_join_left _ _)
    · rw [hflags, hfileId]
      have ha' := h.flags a ha
      rw [hn] at ha'
      have hmono := Flags.upTo_mono (Nat.le_succ stage.index)
      refine Flags.join_le_iff.mpr ⟨Flags.le_trans ha' (Flags.join_le_iff.mpr ⟨?_, ?_⟩), ?_⟩
      · exact Flags.le_trans hmono (Flags.le_join_left _ _)
      · exact Flags.le_join_right _ _
      · exact Flags.le_trans hflag (Flags.le_join_left _ _)

/-- Ordering a refresh keeps the accord. -/
theorem expect (h : r.Accords log) {ticket : Ticket} (hticket : r.nextTicket? = some ticket) :
    (r.expect ticket).Accords (log.note ticket) := by
  obtain ⟨-, hticket⟩ := Option.ite_none_right_eq_some.mp hticket
  obtain ⟨a, -, rfl⟩ := Option.map_eq_some_iff.mp hticket
  refine ⟨h.sound.raise (.of_eq rfl rfl rfl rfl rfl), ?_, ?_, h.flags⟩
  · simp [RefreshLog.note, Run.expect, h.numbers, List.range_succ]
  · intro other hother
    rcases List.mem_append.mp hother with hother | hother
    · exact h.earlier other hother
    · rw [List.mem_singleton.mp hother]
      exact Nat.le_refl _

/-- Refreshes that come back keep the accord: what they raise was reported. -/
theorem receiveAll (h : r.Accords log) (arrivals : List Arrival) :
    (r.receiveAll arrivals).Accords (log.comeBack arrivals) := by
  have hraised := RaisedTo.receiveAll r arrivals
  obtain ⟨hordered, -⟩ := receiveAll_orders r arrivals
  refine ⟨h.sound.raise hraised, by rw [hordered]; exact h.numbers,
    by rw [hraised.id]; exact h.earlier, ?_⟩
  intro b hb
  rw [record_receiveAll] at hb
  obtain ⟨a, ha, rfl⟩ := Option.map_eq_some_iff.mp hb
  have hfileId := (Record.RaisedTo.foldl_mergeStatus a (r.taken arrivals)).fileId
  rw [hraised.id, hraised.phase, hfileId]
  apply Record.flags_foldl_mergeStatus_le
  · refine Flags.le_trans (h.flags a ha) (Flags.join_le_iff.mpr ⟨Flags.le_join_left _ _, ?_⟩)
    have hmono := Flags.joinAll_mono (log.flags_subset_comeBack arrivals r.id a.fileId)
    exact Flags.le_trans hmono (Flags.le_join_right _ _)
  · intro report hreport hid
    obtain ⟨arrival, harrival, hrun, hreported⟩ := exists_of_mem_taken hreport
    refine Flags.le_trans (Flags.le_joinAll ?_) (Flags.le_join_right _ _)
    refine RefreshLog.mem_flags.mpr ⟨report, ?_, hid, rfl⟩
    exact RefreshLog.mem_reports.mpr ⟨arrival, List.mem_append_right _ harrival, hrun, hreported⟩

/-- Waiting for refreshes keeps the accord. -/
theorem settle (h : r.Accords log) (arrivals : List Arrival) :
    { r.receiveAll arrivals with pending := [] }.Accords (log.comeBack arrivals) := by
  have hreceived := h.receiveAll arrivals
  have hsound : { r.receiveAll arrivals with pending := [] }.Sound :=
    hreceived.sound.raise (.of_eq rfl rfl rfl rfl rfl)
  exact hreceived.congr hsound rfl rfl rfl fun b hb => ⟨b, hb, rfl, rfl⟩

end Accords

/-- Every turn keeps the accord of a run with the refreshes that are noted. -/
theorem Turn.accords {σ : Type} {env : Surroundings σ} {x y : Run × σ × RefreshLog}
    (t : Turn env.noted x y) (h : x.1.Accords x.2.2) : y.1.Accords y.2.2 := by
  cases t with
  | stageFile file => exact h.stageFile file
  | clear => exact h.clear
  | resume hphase => exact h.resume hphase
  | enter hphase hc => exact h.enter hphase hc
  | call c seen => exact h
  | conclude hphase hc answer => exact h.conclude hphase hc answer
  | order hticket => exact h.expect hticket
  | arrive r s => exact h.receiveAll _
  | settle r s seen => exact h.settle _
  | publish r s => exact h.publish

/-- Turns keep the accord of a run with the refreshes that are noted. -/
theorem Turns.accords {σ : Type} {env : Surroundings σ} {x y : Run × σ × RefreshLog}
    (t : Turns env.noted x y) (h : x.1.Accords x.2.2) : y.1.Accords y.2.2 := by
  induction t with
  | refl => exact h
  | tail _ t ih => exact t.accords ih

/-- A run that has not begun accords with nothing having been ordered. -/
theorem Accords.fresh (refreshing : Bool) : (Run.fresh refreshing).Accords .empty where
  sound := .of_idle rfl rfl rfl
  numbers := rfl
  earlier := by simp [RefreshLog.empty]
  flags := by simp [Run.fresh]

/-- Operations lead to a run that accords with the refreshes that were noted. -/
theorem accords_operate {σ : Type} (env : Surroundings σ) (ops : List Operation) (refreshing : Bool)
    (s : σ) :
    (operate env.noted ops (fresh refreshing) (s, .empty)).1.Accords
      (operate env.noted ops (fresh refreshing) (s, .empty)).2.2 :=
  (turns_operate env.noted ops (fresh refreshing) (s, .empty)).accords (.fresh refreshing)

end Run

end CsvCleaning
