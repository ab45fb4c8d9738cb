import CsvCleaning.Proofs.Run.Reports
import Mathlib.Data.List.Basic

/-!
# Runs under other numbers

The numbers of a run and of its refreshes are names and nothing else. Renumbering a run shifts its
number and those of its refreshes wherever they occur. Everything that a run does is the same after
renumbering, up to the numbers; and a refresh that was ordered under a number below the shifted ones
is one that the renumbered run does not expect, and drops.
-/

namespace CsvCleaning

variable (runs tickets : Nat)

/-- The same ticket under later numbers. -/
def Ticket.renumber (t : Ticket) : Ticket :=
  ⟨t.number + tickets, t.run + runs, t.fileId⟩

/-- The same arrival under later numbers. -/
def Arrival.renumber (a : Arrival) : Arrival :=
  ⟨a.ticket.renumber runs tickets, a.report⟩

/-- The same record under a later number. -/
def Record.renumber (a : Record) : Record :=
  { a with run := a.run + runs }

/-- The same snapshot with a record under a later number. -/
def Snapshot.renumber (seen : Snapshot) : Snapshot :=
  { seen with record := seen.record.map (·.renumber runs) }

/-- Different tickets stay different. -/
theorem Ticket.renumber_injective : Function.Injective (Ticket.renumber runs tickets) := by
  rintro ⟨number, run, fileId⟩ ⟨number', run', fileId'⟩ h
  simpa [Ticket.renumber] using h

/-- Shifting by nothing is no change. -/
@[simp] theorem Ticket.renumber_zero (t : Ticket) : t.renumber 0 0 = t := rfl

/-- Shifting by nothing is no change. -/
@[simp] theorem Arrival.renumber_zero (a : Arrival) : a.renumber 0 0 = a := rfl

/-- Shifting by nothing is no change. -/
@[simp] theorem Snapshot.renumber_zero (seen : Snapshot) : seen.renumber 0 = seen := by
  cases seen with
  | mk phase record fileName resultRows => cases record <;> rfl

namespace Record

/-- The record of an upload is the same. -/
theorem uploaded_renumber (run : Nat) (fileId filename : String) :
    uploaded (run + runs) fileId filename =
      (uploaded run fileId filename).map (·.renumber runs) := by
  unfold uploaded
  split <;> rfl

/-- Processing is noted alike. -/
theorem markProcessed_renumber (a : Record) (script : Option String)
    (summary : Option DataSummary) :
    (a.renumber runs).markProcessed script summary =
      (a.markProcessed script summary).map (·.renumber runs) := by
  unfold markProcessed
  change (if a.flags.uploaded then _ else _) = _
  split <;> rfl

/-- Execution is noted alike. -/
theorem markExecuted_renumber (a : Record) (rows : Nat) :
    (a.renumber runs).markExecuted rows = (a.markExecuted rows).map (·.renumber runs) := by
  unfold markExecuted
  change (if a.flags.processed then _ else _) = _
  split <;> rfl

/-- The result is noted alike. -/
theorem markReady_renumber (a : Record) :
    (a.renumber runs).markReady = a.markReady.map (·.renumber runs) := by
  unfold markReady
  change (if a.flags.executed then _ else _) = _
  split <;> rfl

/-- A report is folded in alike. -/
theorem mergeStatus_renumber (a : Record) (report : StatusReport) :
    (a.renumber runs).mergeStatus report = (a.mergeStatus report).renumber runs := by
  unfold mergeStatus
  change (if report.fileId = a.fileId then _ else _) = _
  split
  · change (if a.flags.merge report.flags = a.flags then _ else _) = _
    dsimp only
    split <;> rfl
  · rfl

/-- Reports are folded in alike. -/
theorem foldl_mergeStatus_renumber (a : Record) (reports : List StatusReport) :
    reports.foldl mergeStatus (a.renumber runs) = (reports.foldl mergeStatus a).renumber runs := by
  induction reports generalizing a with
  | nil => rfl
  | cons report rest ih => rw [List.foldl_cons, mergeStatus_renumber, ih, List.foldl_cons]

end Record

namespace Run

/-- The same run under later numbers. -/
def renumber (r : Run) : Run :=
  { r with
    id := r.id + runs
    record := r.record.map (·.renumber runs)
    pending := r.pending.map (·.renumber runs tickets)
    ordered := r.ordered + tickets
    published := r.published.renumber runs }

end Run

/-- The same stage call of a run under later numbers. -/
def Flight.renumber (f : Flight) : Flight :=
  ⟨f.run.renumber runs tickets, f.call, f.answer⟩

/-- The same operation on a run under later numbers. -/
def Run.Entry.renumber (e : Run.Entry) : Run.Entry :=
  ⟨e.operation, e.flights.map (·.renumber runs tickets), e.outcome, e.after.renumber runs tickets⟩

namespace Run

/-- Shifting by nothing is no change. -/
@[simp] theorem renumber_zero (r : Run) : r.renumber 0 0 = r := by
  have hpending : r.pending.map (Ticket.renumber 0 0) = r.pending := List.map_id r.pending
  have hrecord : r.record.map (Record.renumber 0) = r.record := congrFun Option.map_id r.record
  simp only [renumber, Nat.add_zero, Snapshot.renumber_zero]
  rw [hpending, hrecord]

/-- Shifting by nothing is no change. -/
@[simp] theorem Entry.renumber_zero (e : Entry) : e.renumber 0 0 = e := by
  have hflights : e.flights.map (Flight.renumber 0 0) = e.flights := by
    conv_rhs => rw [← List.map_id e.flights]
    refine List.map_congr_left fun f _ => ?_
    simp [Flight.renumber]
  simp only [Entry.renumber, Run.renumber_zero]
  rw [hflights]

section Operations

variable (r : Run)

/-- Publishing is the same. -/
theorem publish_renumber : (r.renumber runs tickets).publish = r.publish.renumber runs tickets :=
  rfl

/-- Clearing is the same. -/
theorem clear_renumber : (r.renumber runs tickets).clear = r.clear.renumber runs tickets := by
  simp [clear, publish, renumber, snapshot, Snapshot.renumber, Nat.add_right_comm]

/-- Staging a file is the same. -/
theorem stageFile_renumber (file : SourceFile) :
    (r.renumber runs tickets).stageFile file =
      ((r.stageFile file).1.renumber runs tickets, (r.stageFile file).2) := by
  have hsome : (r.renumber runs tickets).record.isSome = r.record.isSome := Option.isSome_map
  have hphase : (r.renumber runs tickets).phase = r.phase := rfl
  unfold stageFile
  rw [hphase, hsome, clear_renumber]
  split
  · rfl
  · dsimp only
    split <;> rfl

/-- The file id is the same. -/
@[simp] theorem fileId_renumber : (r.renumber runs tickets).fileId = r.fileId := by
  unfold fileId renumber
  cases r.record <;> rfl

/-- The call of a stage is the same. -/
@[simp] theorem request?_renumber (stage : Stage) :
    (r.renumber runs tickets).request? stage = r.request? stage := by
  have hfile : (r.renumber runs tickets).file = r.file := rfl
  exact request?_congr hfile (fileId_renumber runs tickets r) stage

/-- Beginning a stage is the same. -/
theorem enter_renumber (stage : Stage) :
    (r.renumber runs tickets).enter stage = (r.enter stage).renumber runs tickets :=
  rfl

/-- A failing stage is the same. -/
theorem fail_renumber (stage : Stage) (e : Failure) :
    (r.renumber runs tickets).fail stage e = (r.fail stage e).renumber runs tickets := by
  cases r with
  | mk refreshing id file phase record result pending ordered published => cases record <;> rfl

/-- Resuming is the same. -/
theorem resume_renumber : (r.renumber runs tickets).resume = r.resume.renumber runs tickets := by
  have hphase : (r.renumber runs tickets).phase = r.phase := rfl
  cases hr : r.phase with
  | failed stage message =>
    rw [resume_of_failed hr, resume_of_failed (hphase.trans hr)]
    cases r with
    | mk refreshing id file phase record result pending ordered published => cases record <;> rfl
  | _ =>
    have hnone : r.phase.failedStage? = none := by rw [hr]; rfl
    rw [resume_of_failedStage?_eq_none hnone, resume_of_failedStage?_eq_none (hphase ▸ hnone)]

/-- The record is the same under a later number. -/
theorem activeRecord_renumber :
    (r.renumber runs tickets).activeRecord = r.activeRecord.map (·.renumber runs) := by
  cases r with
  | mk refreshing id file phase record result pending ordered published => cases record <;> rfl

/-- A reply is accepted alike. -/
theorem accept_renumber (c : Call) (reply : c.Reply) :
    (r.renumber runs tickets).accept c reply =
      (r.accept c reply).map (·.renumber runs tickets) := by
  cases c with
  | upload file =>
    change (Record.uploaded (r.id + runs) reply.fileId file.name >>= _) = _
    rw [Record.uploaded_renumber]
    simp only [accept]
    cases Record.uploaded r.id reply.fileId file.name <;> rfl
  | process fileId =>
    simp only [accept, activeRecord_renumber]
    split
    · rfl
    · cases r.activeRecord with
      | error e => rfl
      | ok a =>
        change ((a.renumber runs).markProcessed reply.script reply.dataSummary >>= _) = _
        rw [Record.markProcessed_renumber]
        change _ = Except.map _ (a.markProcessed reply.script reply.dataSummary >>= _)
        cases a.markProcessed reply.script reply.dataSummary <;> rfl
  | execute fileId =>
    simp only [accept, activeRecord_renumber]
    cases r.activeRecord with
    | error e => rfl
    | ok a =>
      change ((a.renumber runs).markExecuted reply.processedRows >>= _) = _
      rw [Record.markExecuted_renumber]
      change _ = Except.map _ (a.markExecuted reply.processedRows >>= _)
      cases a.markExecuted reply.processedRows <;> rfl
  | result fileId =>
    simp only [accept, activeRecord_renumber]
    split
    · rfl
    · cases r.activeRecord with
      | error e => rfl
      | ok a =>
        change ((a.renumber runs).markReady >>= _) = _
        rw [Record.markReady_renumber]
        change _ = Except.map _ (a.markReady >>= _)
        cases a.markReady <;> rfl
  | health | status fileId | script fileId | download fileId => rfl

/-- An answer is taken alike. -/
theorem conclude_renumber (stage : Stage) (c : Call) (answer : Answer c) :
    (r.renumber runs tickets).conclude stage c answer =
      (r.conclude stage c answer).renumber runs tickets := by
  cases answer with
  | error e => exact fail_renumber runs tickets r stage e
  | ok reply =>
    simp only [conclude, bind, Except.bind, accept_renumber]
    cases r.accept c reply with
    | error e => exact fail_renumber runs tickets r stage e
    | ok r' => rfl

/-- The next ticket is the same under later numbers. -/
theorem nextTicket?_renumber :
    (r.renumber runs tickets).nextTicket? = r.nextTicket?.map (·.renumber runs tickets) := by
  cases r with
  | mk refreshing id file phase record result pending ordered published =>
    cases refreshing <;> cases record <;> rfl

/-- Noting an order down is the same. -/
theorem expect_renumber (ticket : Ticket) :
    (r.renumber runs tickets).expect (ticket.renumber runs tickets) =
      (r.expect ticket).renumber runs tickets := by
  simp [expect, renumber, Nat.add_right_comm]

/-- A report is taken or dropped alike. -/
theorem taken?_renumber (a : Arrival) :
    (r.renumber runs tickets).taken? (a.renumber runs tickets) = r.taken? a := by
  have hmem : (a.renumber runs tickets).ticket ∈ (r.renumber runs tickets).pending ↔
      a.ticket ∈ r.pending := List.mem_map_of_injective (Ticket.renumber_injective runs tickets)
  have hrun : (a.renumber runs tickets).ticket.run = (r.renumber runs tickets).id ↔
      a.ticket.run = r.id := Nat.add_right_cancel_iff
  simp only [taken?, hmem, hrun]
  rfl

/-- A refresh that comes back is taken or dropped alike. -/
theorem receive_renumber (a : Arrival) :
    (r.renumber runs tickets).receive (a.renumber runs tickets) =
      (r.receive a).renumber runs tickets := by
  have herase : (r.renumber runs tickets).pending.erase (a.renumber runs tickets).ticket =
      (r.pending.erase a.ticket).map (·.renumber runs tickets) :=
    (List.map_erase (Ticket.renumber_injective runs tickets) r.pending).symm
  rw [receive_eq, receive_eq, herase, taken?_renumber]
  cases hrecord : r.record with
  | none => simp [renumber, hrecord]
  | some b =>
    have hfold := Record.foldl_mergeStatus_renumber runs b (r.taken? a).toList
    simpa [renumber, hrecord] using hfold

/-- A refresh that was ordered under an earlier number is dropped. -/
theorem receive_of_run_lt {a : Arrival} (h : a.ticket.run < runs) :
    (r.renumber runs tickets).receive a = r.renumber runs tickets := by
  have hmem : a.ticket ∉ (r.renumber runs tickets).pending := by
    intro hmem
    obtain ⟨ticket, -, hticket⟩ := List.mem_map.mp hmem
    rw [← hticket] at h
    exact absurd h (Nat.not_lt.mpr (Nat.le_add_left runs ticket.run))
  simp [receive, hmem]

/-- Refreshes that come back are taken or dropped alike, with others from earlier numbers in
between. -/
theorem receiveAll_renumber {arrivals arrivals' : List Arrival}
    (h : arrivals'.filter (runs ≤ ·.ticket.run) = arrivals.map (·.renumber runs tickets)) :
    (r.renumber runs tickets).receiveAll arrivals' =
      (r.receiveAll arrivals).renumber runs tickets := by
  induction arrivals' generalizing r arrivals with
  | nil =>
    obtain rfl := List.map_eq_nil_iff.mp h.symm
    rfl
  | cons a' rest' ih =>
    change ((r.renumber runs tickets).receive a').receiveAll rest' = _
    by_cases hrun : runs ≤ a'.ticket.run
    · rw [List.filter_cons_of_pos (by simpa using hrun)] at h
      obtain ⟨a, rest, rfl, rfl, hrest⟩ := List.map_eq_cons_iff.mp h.symm
      rw [receive_renumber, ih (r.receive a) hrest.symm]
      rfl
    · rw [List.filter_cons_of_neg (by simpa using hrun)] at h
      rw [receive_of_run_lt runs tickets r (Nat.lt_of_not_le hrun)]
      exact ih r h

end Operations

end Run

end CsvCleaning
