import CsvCleaning.Proofs.Run.Delivery
import CsvCleaning.Proofs.Run.Orders
import Mathlib.Data.Multiset.UnionInter

/-!
# The balance of refreshes

In surroundings that deliver, every refresh that was ordered has come back or is owed, and the run
expects those of the owed ones that were ordered under its number. So it takes every report for it,
and if reported flags are ordered its record has all of them. Waiting for refreshes leaves none that
is expected.
-/

namespace CsvCleaning

/-- More refreshes have more tickets. -/
theorem ticketsOf_append (arrivals arrivals' : List Arrival) :
    ticketsOf (arrivals ++ arrivals') = ticketsOf arrivals + ticketsOf arrivals' := by
  simp [ticketsOf]

/-- Every report is that of a refresh that came back. -/
theorem RefreshLog.exists_ticket_of_mem_reports {log : RefreshLog} {run : Nat}
    {report : StatusReport} (h : report ∈ log.reports run) :
    ∃ ticket ∈ ticketsOf log.back, ticket.run = run := by
  obtain ⟨a, ha, hrun, -⟩ := RefreshLog.mem_reports.mp h
  exact ⟨a.ticket, List.mem_map_of_mem ha, hrun⟩

namespace Run

/-- The balance of a run whose surroundings owe refreshes: the orders are those that came back and
those that are owed, the run expects the owed ones of its number, and its record has every flag that
was reported to it, if reported flags are ordered. -/
structure Awaits (r : Run) (owed : Multiset Ticket) (log : RefreshLog) : Prop where
  accords : r.Accords log
  balance : (log.orders : Multiset Ticket) = ticketsOf log.back + owed
  pending : (r.pending : Multiset Ticket) = owed.filter (·.run = r.id)
  unrecorded : r.record = none → ∀ ticket ∈ log.orders, ticket.run ≠ r.id
  reported : (∀ report ∈ log.reports r.id, report.flags.isOrdered = true) →
    ∀ a ∈ r.record, ∀ f ∈ log.flags r.id a.fileId, f ≤ a.flags

namespace Awaits

variable {r r' : Run} {owed : Multiset Ticket} {log : RefreshLog}

/-- What came back and what is owed was ordered. -/
theorem mem_orders (h : r.Awaits owed log) {ticket : Ticket}
    (hticket : ticket ∈ ticketsOf log.back ∨ ticket ∈ owed) : ticket ∈ log.orders := by
  rw [← Multiset.mem_coe, h.balance, Multiset.mem_add]
  exact hticket

/-- No refresh is ordered twice. -/
theorem nodup (h : r.Awaits owed log) : (log.orders : Multiset Ticket).Nodup := by
  have hnumbers : (log.orders.map (·.number)).Nodup := h.accords.numbers ▸ List.nodup_range
  exact Multiset.coe_nodup.mpr (List.Nodup.of_map _ hnumbers)

/-- Without a refresh under its number, nothing was reported to a run. -/
theorem flags_eq_nil (h : r.Awaits owed log) {n : Nat}
    (hn : ∀ ticket ∈ log.orders, ticket.run ≠ n) (fileId : String) : log.flags n fileId = [] := by
  refine List.eq_nil_iff_forall_not_mem.mpr fun f hf => ?_
  obtain ⟨report, hreport, -⟩ := RefreshLog.mem_flags.mp hf
  obtain ⟨ticket, hticket, hrun⟩ := RefreshLog.exists_ticket_of_mem_reports hreport
  exact hn ticket (h.mem_orders (.inl hticket)) hrun

/-- A change that keeps what the run expects, does not discard its record and takes no flag away
keeps the balance. -/
theorem congr (h : r.Awaits owed log) (haccords : r'.Accords log) (hid : r'.id = r.id)
    (hpending : r'.pending = r.pending) (hnone : r'.record = none → r.record = none)
    (hrecord : ∀ b ∈ r'.record, ∀ a ∈ r.record, b.fileId = a.fileId ∧ a.flags ≤ b.flags) :
    r'.Awaits owed log where
  accords := haccords
  balance := h.balance
  pending := by rw [hpending, hid, h.pending]
  unrecorded := by
    rw [hid]
    exact fun hb => h.unrecorded (hnone hb)
  reported := by
    rw [hid]
    intro hordered b hb f hf
    cases ha : r.record with
    | none =>
      rw [h.flags_eq_nil (h.unrecorded ha)] at hf
      cases hf
    | some a =>
      obtain ⟨hfileId, hflags⟩ := hrecord b hb a ha
      rw [hfileId] at hf
      exact Flags.le_trans (h.reported hordered a ha f hf) hflags

/-- A run that begins under a later number has nothing to expect. -/
theorem renew (h : r.Awaits owed log) (haccords : r'.Accords log) (hid : r.id < r'.id)
    (hpending : r'.pending = []) (hrecord : r'.record = none) : r'.Awaits owed log where
  accords := haccords
  balance := h.balance
  pending := by
    rw [hpending, Multiset.coe_nil, eq_comm, Multiset.filter_eq_nil]
    intro ticket hticket hrun
    have hearlier := h.accords.earlier ticket (h.mem_orders (.inr hticket))
    omega
  unrecorded := by
    intro _ ticket hticket hrun
    have hearlier := h.accords.earlier ticket hticket
    omega
  reported := by simp [hrecord]

/-- Staging a file keeps the balance. -/
theorem stageFile (h : r.Awaits owed log) (file : SourceFile) :
    (r.stageFile file).1.Awaits owed log := by
  have haccords := h.accords.stageFile file
  revert haccords
  unfold Run.stageFile
  split
  · exact fun _ => h
  · dsimp only
    split
    · exact fun haccords => h.renew haccords (Nat.lt_succ_self r.id) rfl rfl
    · refine fun haccords => h.congr haccords rfl rfl (fun hnone => hnone) fun b hb a ha => ?_
      obtain rfl := Option.some.inj (hb.symm.trans ha)
      exact ⟨rfl, Flags.le_refl _⟩

/-- Changing the record without its file id and its flags keeps the balance. -/
theorem map_record (h : r.Awaits owed log) (haccords : r'.Accords log) (hid : r'.id = r.id)
    (hpending : r'.pending = r.pending) {change : Record → Record}
    (hrecord : r'.record = r.record.map change)
    (hchange : ∀ a, (change a).fileId = a.fileId ∧ (change a).flags = a.flags) :
    r'.Awaits owed log := by
  refine h.congr haccords hid hpending ?_ fun b hb a ha => ?_
  · rw [hrecord]
    exact Option.map_eq_none_iff.mp
  · rw [hrecord, Option.mem_def.mp ha] at hb
    obtain rfl := Option.some.inj hb
    exact ⟨(hchange a).1, (hchange a).2 ▸ Flags.le_refl _⟩

/-- Resuming keeps the balance. -/
theorem resume (h : r.Awaits owed log) {stage : Stage} {message : String}
    (hphase : r.phase = .failed stage message) : r.resume.Awaits owed log := by
  have haccords := h.accords.resume hphase
  rw [resume_of_failed hphase] at haccords ⊢
  exact h.map_record haccords rfl rfl rfl fun _ => ⟨rfl, rfl⟩

/-- An answer keeps the balance. -/
theorem conclude (h : r.Awaits owed log) {stage : Stage} {c : Call}
    (hphase : r.phase = stage.busyPhase) (hc : r.request? stage = some c) (answer : Answer c) :
    (r.conclude stage c answer).Awaits owed log := by
  have haccords := h.accords.conclude hphase hc answer
  rcases h.accords.sound.conclude_cases hphase hc answer with
    ⟨e, -, hfail⟩ | ⟨reply, -, -, hadvance⟩
  · rw [hfail] at haccords ⊢
    exact h.map_record haccords rfl rfl rfl fun _ => ⟨rfl, rfl⟩
  · obtain ⟨hid, -, -, hpending⟩ := hadvance.refreshes
    refine h.congr haccords hid hpending ?_ fun b hb a ha => ?_
    · exact fun hnone => absurd hnone hadvance.record_ne_none
    · rcases hadvance.flags hb with ⟨rfl, -⟩ | ⟨a', ha', hfileId, hflags⟩
      · rw [h.accords.sound.record_eq_none (by rw [hphase]; rfl)] at ha
        cases ha
      · obtain rfl := Option.some.inj (ha.symm.trans ha')
        exact ⟨hfileId, hflags ▸ Flags.le_join_left _ _⟩

/-- Ordering a refresh keeps the balance: it is owed, and expected. -/
theorem expect (h : r.Awaits owed log) {ticket : Ticket} (hticket : r.nextTicket? = some ticket) :
    (r.expect ticket).Awaits (ticket ::ₘ owed) (log.note ticket) := by
  have haccords := h.accords.expect hticket
  obtain ⟨-, hticket⟩ := Option.ite_none_right_eq_some.mp hticket
  obtain ⟨a, ha, rfl⟩ := Option.map_eq_some_iff.mp hticket
  refine ⟨haccords, ?_, ?_, ?_, h.reported⟩
  · change ((log.orders ++ [_] : List Ticket) : Multiset Ticket) = _
    rw [coe_append_ticket, h.balance]
    exact (Multiset.add_cons _ _ _).symm
  · change ((r.pending ++ [_] : List Ticket) : Multiset Ticket) = _
    rw [coe_append_ticket, h.pending]
    symm
    exact Multiset.filter_cons_of_pos (p := fun ticket : Ticket => ticket.run = r.id) owed rfl
  · intro hnone
    cases hnone.symm.trans ha

/-- A refresh that comes back keeps the balance: it is taken if it was ordered under the number of
the run, and was not expected otherwise. -/
theorem receive {a : Arrival} (h : r.Awaits (a.ticket ::ₘ owed) log) :
    (r.receive a).Awaits owed (log.comeBack [a]) := by
  have haccords : (r.receive a).Accords (log.comeBack [a]) := h.accords.receiveAll [a]
  have hid : (r.receive a).id = r.id := (RaisedTo.receive r a).id
  refine ⟨haccords, ?_, ?_, ?_, ?_⟩
  · change _ = ticketsOf (log.back ++ [a]) + owed
    rw [ticketsOf_append, Multiset.add_assoc]
    exact h.balance
  · have hpending : (r.receive a).pending = r.pending.erase a.ticket := by rw [receive_eq]
    rw [hpending, hid, ← Multiset.coe_erase, h.pending]
    by_cases hrun : a.ticket.run = r.id
    · rw [Multiset.filter_cons_of_pos (p := fun ticket : Ticket => ticket.run = r.id) owed hrun,
        Multiset.erase_cons_head]
    · rw [Multiset.filter_cons_of_neg (p := fun ticket : Ticket => ticket.run = r.id) owed hrun,
        Multiset.erase_of_notMem]
      exact fun hmem => hrun (Multiset.mem_filter.mp hmem).2
  · rw [hid, receive_eq]
    exact fun hnone => h.unrecorded (Option.map_eq_none_iff.mp hnone)
  · rw [hid]
    intro hordered b hb f hf
    have hsubset : log.reports r.id ⊆ (log.comeBack [a]).reports r.id := by
      rw [RefreshLog.reports_comeBack]
      exact List.subset_append_left _ _
    rw [receive_eq] at hb
    obtain ⟨a₀, ha₀, rfl⟩ := Option.map_eq_some_iff.mp hb
    have hraised := Record.RaisedTo.foldl_mergeStatus a₀ (r.taken? a).toList
    rw [hraised.fileId] at hf
    obtain ⟨report, hreport, hfileId, rfl⟩ := RefreshLog.mem_flags.mp hf
    obtain ⟨arrival, harrival, hrun, hreported⟩ := RefreshLog.mem_reports.mp hreport
    rcases List.mem_append.mp harrival with harrival | harrival
    · have hbefore := RefreshLog.mem_reports.mpr ⟨arrival, harrival, hrun, hreported⟩
      have hold := h.reported (fun report hreport => hordered report (hsubset hreport)) a₀ ha₀ _
        (RefreshLog.mem_flags.mpr ⟨report, hbefore, hfileId, rfl⟩)
      exact Flags.le_trans hold hraised.flags
    · obtain rfl := List.mem_singleton.mp harrival
      have hpending : arrival.ticket ∈ r.pending := by
        rw [← Multiset.mem_coe, h.pending, Multiset.mem_filter]
        exact ⟨Multiset.mem_cons_self _ _, hrun⟩
      -- The refresh was expected, so its report is taken, and being ordered raises all its flags.
      have htaken : r.taken? arrival = some report := by simp [taken?, hpending, hrun, hreported]
      rw [htaken]
      change report.flags ≤ (a₀.mergeStatus report).flags
      rw [Record.flags_mergeStatus hfileId]
      exact Flags.le_merge_of_isOrdered (hordered report hreport) _

/-- Refreshes that come back keep the balance, in whatever order. -/
theorem receiveAll {arrivals : List Arrival} (h : r.Awaits (ticketsOf arrivals + owed) log) :
    (r.receiveAll arrivals).Awaits owed (log.comeBack arrivals) := by
  induction arrivals generalizing r log with
  | nil => simpa [ticketsOf, RefreshLog.comeBack, Run.receiveAll] using h
  | cons a rest ih =>
    have hcons : ticketsOf (a :: rest) + owed = a.ticket ::ₘ (ticketsOf rest + owed) := by
      change (a.ticket ::ₘ ticketsOf rest) + owed = _
      exact Multiset.cons_add _ _ _
    have hback : log.comeBack (a :: rest) = (log.comeBack [a]).comeBack rest := by
      simp [RefreshLog.comeBack]
    rw [hcons] at h
    rw [hback]
    exact ih h.receive

/-- Having waited for all refreshes it expects, a run expects none. -/
theorem settle {arrivals : List Arrival} (h : r.Awaits (ticketsOf arrivals + owed) log)
    (hsettled : ∀ ticket ∈ r.pending, ticket ∈ ticketsOf arrivals + owed →
      ticket ∈ ticketsOf arrivals) :
    { r.receiveAll arrivals with pending := [] }.Awaits owed (log.comeBack arrivals) := by
  have hreceived := h.receiveAll
  have hid : (r.receiveAll arrivals).id = r.id := (RaisedTo.receiveAll r arrivals).id
  have hnone : owed.filter (·.run = r.id) = 0 := by
    refine Multiset.filter_eq_nil.mpr fun ticket hticket hrun => ?_
    have howed : ticket ∈ ticketsOf arrivals + owed := Multiset.mem_add.mpr (.inr hticket)
    have hpending : ticket ∈ r.pending := by
      rw [← Multiset.mem_coe, h.pending]
      exact Multiset.mem_filter.mpr ⟨howed, hrun⟩
    -- The ticket would have been handed over and be owed still, but no ticket is ordered twice.
    have hnodup := h.nodup
    rw [h.balance] at hnodup
    obtain ⟨-, hnodup, -⟩ := Multiset.nodup_add.mp hnodup
    obtain ⟨-, -, hdisjoint⟩ := Multiset.nodup_add.mp hnodup
    exact Multiset.disjoint_left.mp hdisjoint (hsettled ticket hpending howed) hticket
  refine ⟨h.accords.settle arrivals, hreceived.balance, ?_, hreceived.unrecorded,
    hreceived.reported⟩
  change (0 : Multiset Ticket) = owed.filter (·.run = (r.receiveAll arrivals).id)
  rw [hid, hnone]

/-- A run that has not begun awaits nothing. -/
theorem fresh (refreshing : Bool) : (Run.fresh refreshing).Awaits 0 .empty where
  accords := .fresh refreshing
  balance := rfl
  pending := rfl
  unrecorded := by simp [RefreshLog.empty]
  reported := by simp [Run.fresh]

end Awaits

/-- The balance of a run in the surroundings that owe its refreshes. -/
def Balanced {σ : Type} (Owes : σ → Multiset Ticket → Prop) (x : Run × σ × RefreshLog) : Prop :=
  ∃ owed, Owes x.2.1 owed ∧ x.1.Awaits owed x.2.2

/-- In surroundings that deliver, every turn keeps the balance. -/
theorem Turn.balanced {σ : Type} {env : Surroundings σ} {Owes : σ → Multiset Ticket → Prop}
    (henv : env.Delivers Owes) {x y : Run × σ × RefreshLog} (t : Turn env.noted x y)
    (h : Balanced Owes x) : Balanced Owes y := by
  obtain ⟨owed, howed, h⟩ := h
  cases t with
  | stageFile file => exact ⟨owed, howed, h.stageFile file⟩
  | clear r s => exact ⟨owed, howed, h.renew h.accords.clear (Nat.lt_succ_self _) rfl rfl⟩
  | resume hphase => exact ⟨owed, howed, h.resume hphase⟩
  | enter hphase hc =>
    refine ⟨owed, howed, h.map_record (h.accords.enter hphase hc) rfl rfl ?_ fun _ => ⟨rfl, rfl⟩⟩
    exact (congrFun Option.map_id _).symm
  | call c seen => exact ⟨owed, henv.call howed c seen, h⟩
  | conclude hphase hc answer => exact ⟨owed, howed, h.conclude hphase hc answer⟩
  | order hticket => exact ⟨_, henv.order howed _, h.expect hticket⟩
  | arrive r s =>
    obtain ⟨rest, hrest, rfl⟩ := henv.arrived howed
    exact ⟨rest, hrest, h.receiveAll⟩
  | settle r s seen =>
    obtain ⟨rest, hrest, rfl, hsettled⟩ := henv.settle howed r.pending seen
    exact ⟨rest, hrest, h.settle hsettled⟩
  | publish r s =>
    refine ⟨owed, howed, h.map_record h.accords.publish rfl rfl ?_ fun _ => ⟨rfl, rfl⟩⟩
    exact (congrFun Option.map_id _).symm

/-- In surroundings that deliver, turns keep the balance. -/
theorem Turns.balanced {σ : Type} {env : Surroundings σ} {Owes : σ → Multiset Ticket → Prop}
    (henv : env.Delivers Owes) {x y : Run × σ × RefreshLog} (t : Turns env.noted x y)
    (h : Balanced Owes x) : Balanced Owes y := by
  induction t with
  | refl => exact h
  | tail _ t ih => exact t.balanced henv ih

end Run

end CsvCleaning
