import CsvCleaning.Proofs.Run.History
import CsvCleaning.Proofs.Run.Raising

/-!
# The reports that a run takes

Of the refreshes that come back a run takes those that it expects and that were ordered under its
number; of these the ones that bring a report are folded into the record, in the order in which
they come back. Nothing else of a run depends on what refreshes say.
-/

namespace CsvCleaning

/-- The answers of a service with which a stage always fails, and every other succeeds. -/
def answersBut (stage : Stage) (f : Failure) (c : Call) : Answer c :=
  if c.stage? = some stage then .error f
  else (Surroundings.obliging.call c .idle ()).1.getD (.error f)

/-- Surroundings that answer every call, and in which every refresh has come back when the run
looks for it. -/
def Surroundings.prompt (answers : (c : Call) → Answer c) (reports : Ticket → Option StatusReport) :
    Surroundings (List Ticket) where
  call c _ tickets := (some (answers c), tickets)
  order ticket tickets := tickets ++ [ticket]
  arrived tickets := (tickets.map fun ticket => ⟨ticket, reports ticket⟩, [])
  settle _ _ tickets := (tickets.map fun ticket => ⟨ticket, reports ticket⟩, [])

/-- Folding reports in raises a record. -/
theorem Record.RaisedTo.foldl_mergeStatus (a : Record) (reports : List StatusReport) :
    a.RaisedTo (reports.foldl Record.mergeStatus a) := by
  induction reports generalizing a with
  | nil => exact .refl a
  | cons report rest ih => exact (Record.RaisedTo.mergeStatus a report).trans (ih _)

namespace Run

/-- The report that a refresh brings to a run, if the run takes it. -/
def taken? (r : Run) (a : Arrival) : Option StatusReport :=
  if a.ticket ∈ r.pending ∧ a.ticket.run = r.id then a.report else none

/-- The reports that a run takes of refreshes which come back one after the other. -/
def taken (r : Run) : List Arrival → List StatusReport
  | [] => []
  | a :: rest => (r.taken? a).toList ++ (r.receive a).taken rest

/-- A report that is taken was ordered under the number of the run. -/
theorem taken?_eq_some {r : Run} {a : Arrival} {report : StatusReport}
    (h : r.taken? a = some report) :
    a.ticket ∈ r.pending ∧ a.ticket.run = r.id ∧ a.report = some report := by
  obtain ⟨⟨hpending, hrun⟩, hreport⟩ := Option.ite_none_right_eq_some.mp h
  exact ⟨hpending, hrun, hreport⟩

/-- A refresh that comes back is no longer expected, and its report is folded into the record if it
is taken. -/
theorem receive_eq (r : Run) (a : Arrival) :
    r.receive a =
      { r with
        pending := r.pending.erase a.ticket
        record := r.record.map fun record =>
          (r.taken? a).toList.foldl Record.mergeStatus record } := by
  unfold receive taken?
  by_cases hpending : a.ticket ∈ r.pending
  · rw [if_pos hpending]
    cases hreport : a.report with
    | none => simp
    | some report => by_cases hrun : a.ticket.run = r.id <;> simp [hpending, hrun, merge]
  · rw [if_neg hpending, List.erase_of_not_mem hpending]
    simp [hpending]

/-- Refreshes that come back leave alone what is to be ordered. -/
theorem receiveAll_orders (r : Run) (arrivals : List Arrival) :
    (r.receiveAll arrivals).ordered = r.ordered ∧
      (r.receiveAll arrivals).refreshing = r.refreshing := by
  induction arrivals generalizing r with
  | nil => exact ⟨rfl, rfl⟩
  | cons a rest ih =>
    obtain ⟨hordered, hrefreshing⟩ := ih (r.receive a)
    have hfirst : (r.receive a).ordered = r.ordered ∧ (r.receive a).refreshing = r.refreshing := by
      rw [receive_eq]
      exact ⟨rfl, rfl⟩
    exact ⟨hordered.trans hfirst.1, hrefreshing.trans hfirst.2⟩

/-- Refreshes that come back fold the reports that are taken into the record, in their order. -/
theorem record_receiveAll (r : Run) (arrivals : List Arrival) :
    (r.receiveAll arrivals).record =
      r.record.map fun record => (r.taken arrivals).foldl Record.mergeStatus record := by
  induction arrivals generalizing r with
  | nil => simp [receiveAll, taken]
  | cons a rest ih =>
    change ((r.receive a).receiveAll rest).record = _
    rw [ih, receive_eq, Option.map_map, taken, receive_eq]
    simp only [List.foldl_append]
    rfl

/-- Every report that is taken came back under the number of the run. -/
theorem exists_of_mem_taken {r : Run} {arrivals : List Arrival} {report : StatusReport}
    (h : report ∈ r.taken arrivals) :
    ∃ a ∈ arrivals, a.ticket.run = r.id ∧ a.report = some report := by
  induction arrivals generalizing r with
  | nil => cases h
  | cons a rest ih =>
    rcases List.mem_append.mp h with h | h
    · obtain ⟨-, hrun, hreport⟩ := taken?_eq_some (Option.mem_toList.mp h)
      exact ⟨a, List.mem_cons_self, hrun, hreport⟩
    · obtain ⟨b, hb, hrun, hreport⟩ := ih h
      rw [receive_eq] at hrun
      exact ⟨b, List.mem_cons_of_mem a hb, hrun, hreport⟩

end Run

end CsvCleaning
