import CsvCleaning.Proofs.Run.Balance
import CsvCleaning.Proofs.Run.Protocol
import CsvCleaning.Proofs.Run.Replay
import CsvCleaning.Proofs.Run.Scheduling
import CsvCleaning.Proofs.Run.Timekeeping
import CsvCleaning.Service.Script

/-!
# What refreshes come to

If no refresh is lost and every reported flag comes after those before it, then once a run has
waited for its refreshes its flags are known: those of the stages that were accepted and those that
were reported to it, no matter when each refresh came back. Two runs with the same answers and the
same reports have the same flags in the end.
-/

namespace CsvCleaning

/-- The flag that a stage call sets: that of its stage, if the call is accepted. -/
def Flight.flags (f : Flight) : Flags :=
  match f.call.stage?, f.answer with
  | some stage, some (.ok reply) => if (f.call.refusal? reply).isNone then stage.flag else .none
  | _, _ => .none

/-- An accepted call sets the flag of its stage. -/
theorem Flight.flags_of_accepted {f : Flight} {stage : Stage} (hstage : f.call.stage? = some stage)
    (h : f.Accepted) : f.flags = stage.flag := by
  obtain ⟨reply, hanswer, hreply⟩ := h
  simp [flags, hstage, hanswer, hreply]

/-- The flags of a call are below flags that have that of its stage if it is accepted. -/
theorem Flight.flags_le {f : Flight} {g : Flags}
    (h : ∀ stage, f.call.stage? = some stage → f.Accepted → stage.flag ≤ g) : f.flags ≤ g := by
  unfold flags
  split
  · rename_i stage reply hstage hanswer
    split
    · rename_i hreply
      exact h stage hstage ⟨reply, hanswer, Option.isNone_iff_eq_none.mp hreply⟩
    · exact Flags.none_le g
  · exact Flags.none_le g

/-- The flags of a call do not depend on the run that waits for it. -/
theorem Flight.flags_eq_of_asked {f f' : Flight} (h : f'.asked = f.asked) : f'.flags = f.flags := by
  obtain ⟨r, c, answer⟩ := f
  obtain ⟨r', c', answer'⟩ := f'
  cases h
  cases c <;> rcases answer with _ | _ | _ <;> rfl

/-- Every report that came back has ordered flags. -/
def RefreshLog.Ordered (log : RefreshLog) : Prop :=
  ∀ a ∈ log.back, ∀ report ∈ a.report, report.flags.isOrdered = true

namespace Run

/-- The events of an operation have its stage calls. -/
theorem Entry.callsIn_events (e : Entry) : callsIn e.events = e.flights := by
  have hcalled : callsIn (e.flights.map .called) = e.flights := by
    rw [callsIn, List.filterMap_map]
    exact List.filterMap_some
  unfold Entry.events
  rw [callsIn_append, hcalled]
  split <;> rfl

/-- The events of a history have its stage calls. -/
theorem callsIn_history {σ : Type} (env : Surroundings σ) (ops : List Operation) (r : Run) (s : σ) :
    callsIn ((history env ops r s).flatMap (·.events)) = callsDuring env ops r s := by
  unfold callsDuring
  induction ops generalizing r s with
  | nil => rfl
  | cons op ops ih =>
    rw [history, List.flatMap_cons, List.flatMap_cons, callsIn_append, Entry.callsIn_events, ih]

/-- The calls that explain a run set the flags of its complete stages. -/
theorem Explains.joinAll_flags {calls : List Flight} {r : Run} (h : Explains calls r) :
    Flags.joinAll (calls.map Flight.flags) = Flags.upTo r.phase.completed := by
  apply Flags.le_antisymm
  · refine Flags.joinAll_le_iff.mpr fun flags hflags => ?_
    obtain ⟨f, hf, rfl⟩ := List.mem_map.mp hflags
    refine Flight.flags_le fun stage hstage haccepted => ?_
    obtain ⟨stage', hstage', hlt⟩ := h.accepted f hf haccepted
    obtain rfl := Option.some.inj (hstage.symm.trans hstage')
    exact Stage.flag_le_upTo hlt
  · have hflag : ∀ stage : Stage, stage.index < r.phase.completed →
        stage.flag ≤ Flags.joinAll (calls.map Flight.flags) := by
      intro stage hlt
      obtain ⟨g, hlast, haccepted⟩ := h.complete stage hlt
      obtain ⟨hg, hstage⟩ := List.mem_filter.mp (List.mem_of_getLast? hlast)
      rw [← Flight.flags_of_accepted (by simpa using hstage) haccepted]
      exact Flags.le_joinAll (List.mem_map_of_mem hg)
    refine Flags.upTo_le_iff.mpr ⟨fun hn => ?_, fun hn => ?_, fun hn => ?_, fun hn => ?_⟩
    · exact (hflag .upload hn).1 rfl
    · exact (hflag .process hn).2.1 rfl
    · exact (hflag .execute hn).2.2.1 rfl
    · exact (hflag .result hn).2.2.2 rfl

/-- What operations on a new run that orders refreshes, and then waiting for these, come to. -/
def settled {σ : Type} (env : Surroundings σ) (ops : List Operation) (s : σ) :
    Run × σ × RefreshLog :=
  operate env.noted (ops ++ [.settle]) (fresh true) (s, .empty)

/-- What operations have come to once their refreshes have been waited for: after each answered call
that left a record one refresh was ordered; none is expected, and all that were ordered for the run
have come back once; and the flags of the record are those that accepted calls set and those that
were reported. -/
structure Converged (calls : List Flight) (r : Run) (log : RefreshLog) : Prop where
  scheduled : log.orders.map (fun ticket => (ticket.run, ticket.fileId)) =
    calls.filterMap Flight.leaves?
  numbers : log.orders.map (·.number) = List.range r.ordered
  pending : r.pending = []
  delivered : ((log.back.map (·.ticket)).filter (·.run = r.id)).Perm
    (log.orders.filter (·.run = r.id))
  flags : ∀ a ∈ r.record, a.flags = Flags.joinAll
    ((calls.filter (·.run.id = r.id)).map Flight.flags ++ log.flags r.id a.fileId)

section Settling

variable {σ : Type} {env : Surroundings σ}

/-- Having waited in the end, a run expects nothing. -/
theorem pending_settled (env : Surroundings σ) (ops : List Operation) (s : σ) :
    (settled env ops s).1.pending = [] := by
  unfold settled
  generalize fresh true = r
  generalize (s, RefreshLog.empty) = t
  induction ops generalizing r t with
  | nil => rfl
  | cons op ops ih => exact ih _ _

/-- If a run expects none, all refreshes that were ordered under its number have come back once. -/
theorem Awaits.delivered {r : Run} {owed : Multiset Ticket} {log : RefreshLog}
    (h : r.Awaits owed log) (hpending : r.pending = []) :
    ((log.back.map (·.ticket)).filter (·.run = r.id)).Perm (log.orders.filter (·.run = r.id)) := by
  have hnone : owed.filter (·.run = r.id) = 0 := by rw [← h.pending, hpending, Multiset.coe_nil]
  have hsame : (log.orders : Multiset Ticket).filter (·.run = r.id) =
      (ticketsOf log.back).filter (·.run = r.id) := by
    rw [h.balance, Multiset.filter_add, hnone, Multiset.add_zero]
  exact Multiset.coe_eq_coe.mp hsame.symm

/-- The flags of a run that has been told everything are those of its calls and those reported. -/
theorem Awaits.flags_eq {r : Run} {owed : Multiset Ticket} {log : RefreshLog}
    (h : r.Awaits owed log) (hordered : log.Ordered) {calls : List Flight}
    (hcalls : Explains calls r) {a : Record} (ha : a ∈ r.record) :
    a.flags = Flags.joinAll (calls.map Flight.flags ++ log.flags r.id a.fileId) := by
  have hstages := hcalls.joinAll_flags
  have hreported := h.reported (fun report hreport => by
    obtain ⟨arrival, harrival, -, hreport⟩ := RefreshLog.mem_reports.mp hreport
    exact hordered arrival harrival report hreport) a ha
  -- The accord bounds the flags from above whatever is reported; from below it takes that nothing
  -- is lost and that reports are ordered.
  apply Flags.le_antisymm
  · refine Flags.le_trans (h.accords.flags a ha) (Flags.join_le_iff.mpr ⟨?_, ?_⟩)
    · rw [← hstages]
      exact Flags.joinAll_mono (List.subset_append_left _ _)
    · exact Flags.joinAll_mono (List.subset_append_right _ _)
  · refine Flags.joinAll_le_iff.mpr fun f hf => ?_
    rcases List.mem_append.mp hf with hf | hf
    · have hle := Flags.le_joinAll hf
      rw [hstages] at hle
      exact Flags.le_trans hle (h.accords.sound.flags a ha)
    · exact hreported f hf

/-- Once a run has waited for its refreshes, they have converged. -/
theorem converged_settled {Owes : σ → Multiset Ticket → Prop} (henv : env.Delivers Owes) {s : σ}
    (hs : Owes s 0) (ops : List Operation) (hordered : (settled env ops s).2.2.Ordered) :
    Converged (callsDuring env (ops ++ [.settle]) (fresh true) s) (settled env ops s).1
      (settled env ops s).2.2 := by
  have hsound : (fresh true).Sound := .of_idle rfl rfl rfl
  have hturns := turns_operate env.noted (ops ++ [.settle]) (fresh true) (s, .empty)
  obtain ⟨owed, -, hawaits⟩ := hturns.balanced henv ⟨0, hs, .fresh true⟩
  have horders := orders_operate env (ops ++ [.settle]) hsound rfl (s, .empty)
  have hpath := Path.operate env.noted (ops ++ [.settle]) (fresh true) (s, .empty)
  have hexplains := (hpath.accounts (.fresh true) hsound).explains
  rw [history_noted] at horders hexplains
  rw [List.nil_append, callsOf, callsIn_history] at hexplains
  have hpending := pending_settled env ops s
  refine ⟨?_, hawaits.accords.numbers, hpending, hawaits.delivered hpending, fun a ha => ?_⟩
  · unfold settled
    rw [horders]
    exact Flight.map_filterMap_ticket? _
  · exact hawaits.flags_eq hordered hexplains ha

end Settling

/-- What a stage call is to the refreshes: what it leaves a record of, in which run, and the flags
that it sets. -/
def bearing (f : Flight) : Option (Nat × String) × Nat × Flags :=
  (f.leaves?, f.run.id, f.flags)

/-- Calls that agree with others that are waited for are the same to the refreshes. -/
theorem map_bearing_of_agreesWith {calls calls' : List Flight}
    (h : List.Forall₂ Flight.AgreesWith calls calls')
    (hcalls : ∀ f ∈ calls, ∃ stage, Waits f stage) :
    calls'.map bearing = calls.map bearing := by
  induction h with
  | nil => rfl
  | @cons f f' rest rest' hf _ ih =>
    obtain ⟨stage, hwaits⟩ := hcalls f List.mem_cons_self
    have hbearing : bearing f' = bearing f := by
      unfold bearing
      rw [hf.leaves? hwaits, hf.run.id, Flight.flags_eq_of_asked hf.asked]
    rw [List.map_cons, List.map_cons, hbearing,
      ih fun g hg => hcalls g (List.mem_cons_of_mem f hg)]

/-- The calls of operations on a sound run are waited for. -/
theorem waits_of_mem_callsDuring {σ : Type} {env : Surroundings σ} {ops : List Operation} {r : Run}
    (h : r.Sound) {s : σ} {f : Flight} (hf : f ∈ callsDuring env ops r s) :
    ∃ stage, Waits f stage := by
  obtain ⟨e, he, hf⟩ := List.mem_flatMap.mp hf
  refine (Path.operate env ops r s).waits h (List.mem_flatMap.mpr ⟨e, he, ?_⟩)
  exact List.mem_append_right _ (List.mem_map_of_mem hf)

section Confluence

variable {calls calls' : List Flight} {r r' : Run} {log log' : RefreshLog}

/-- The same calls schedule the same refreshes. -/
theorem Converged.orders_eq (h : Converged calls r log) (h' : Converged calls' r' log')
    (hcalls : calls'.map bearing = calls.map bearing) : log'.orders = log.orders := by
  have hleaves : ∀ l : List Flight, l.filterMap Flight.leaves? =
      (l.map bearing).filterMap (·.1) := fun l => by rw [List.filterMap_map]; rfl
  have hscheduled : log'.orders.map (fun ticket => (ticket.run, ticket.fileId)) =
      log.orders.map (fun ticket => (ticket.run, ticket.fileId)) := by
    rw [h.scheduled, h'.scheduled, hleaves, hleaves, hcalls]
  have hordered : r'.ordered = r.ordered := by
    have hlength := congrArg List.length hscheduled
    have hn := congrArg List.length h.numbers
    have hn' := congrArg List.length h'.numbers
    simp only [List.length_map, List.length_range] at hlength hn hn'
    rw [← hn, ← hn', hlength]
  have hnumbers : log'.orders.map (·.number) = log.orders.map (·.number) := by
    rw [h.numbers, h'.numbers, hordered]
  have hinjective : Function.Injective fun ticket : Ticket =>
      (ticket.number, ticket.run, ticket.fileId) := by
    rintro ⟨_, _, _⟩ ⟨_, _, _⟩ heq
    simpa using heq
  have hzip : ∀ l : List Ticket, l.map (fun ticket => (ticket.number, ticket.run, ticket.fileId)) =
      (l.map (·.number)).zip (l.map fun ticket => (ticket.run, ticket.fileId)) :=
    fun l => List.zip_map'.symm
  refine List.map_injective_iff.mpr hinjective ?_
  rw [hzip, hzip, hnumbers, hscheduled]

/-- Flags that were reported to one of two runs with the same refreshes were reported to the
other. -/
theorem Converged.flags_subset (h : Converged calls r log) (h' : Converged calls' r' log')
    (horders : log'.orders = log.orders) (hid : r'.id = r.id)
    (hreports : ∀ a ∈ log.back, ∀ b ∈ log'.back, a.ticket = b.ticket → a.report = b.report)
    (fileId : String) : log.flags r.id fileId ⊆ log'.flags r'.id fileId := by
  intro flags hflags
  obtain ⟨report, hreport, hfileId, rfl⟩ := RefreshLog.mem_flags.mp hflags
  obtain ⟨a, ha, hrun, hsome⟩ := RefreshLog.mem_reports.mp hreport
  have hticket : a.ticket ∈ (log.back.map (·.ticket)).filter (·.run = r.id) :=
    List.mem_filter.mpr ⟨List.mem_map_of_mem ha, by simpa using hrun⟩
  rw [h.delivered.mem_iff, ← horders, ← hid, ← h'.delivered.mem_iff] at hticket
  obtain ⟨b, hb, hsame⟩ := List.mem_map.mp (List.mem_of_mem_filter hticket)
  refine RefreshLog.mem_flags.mpr ⟨report, RefreshLog.mem_reports.mpr ⟨b, hb, ?_, ?_⟩, hfileId, rfl⟩
  · rw [hsame, hrun, hid]
  · rw [← hreports a ha b hb hsame.symm, hsome]

/-- Two runs about the same file have the same flags in the end if their calls and the reports were
the same. -/
theorem Converged.flags_eq (h : Converged calls r log) (h' : Converged calls' r' log')
    (hcalls : calls'.map bearing = calls.map bearing) (hid : r'.id = r.id)
    (hfileId : r'.record.map (·.fileId) = r.record.map (·.fileId))
    (hreports : ∀ a ∈ log.back, ∀ b ∈ log'.back, a.ticket = b.ticket → a.report = b.report) :
    r'.record.map (·.flags) = r.record.map (·.flags) := by
  have horders := h.orders_eq h' hcalls
  have hset : ∀ n, (calls'.filter (·.run.id = n)).map Flight.flags =
      (calls.filter (·.run.id = n)).map Flight.flags := by
    have hbearing : ∀ (n : Nat) (l : List Flight), (l.filter (·.run.id = n)).map Flight.flags =
        ((l.map bearing).filter (·.2.1 = n)).map (·.2.2) := by
      intro n l
      rw [List.filter_map, List.map_map]
      rfl
    exact fun n => by rw [hbearing, hbearing, hcalls]
  cases hr : r.record with
  | none => rw [hr] at hfileId; simpa using hfileId
  | some a =>
    rw [hr] at hfileId
    obtain ⟨b, hb, hfileId⟩ := Option.map_eq_some_iff.mp hfileId
    rw [hb, Option.map_some, Option.map_some, h.flags a hr, h'.flags b hb, hid, hset, hfileId]
    -- The two runs may have been told in another order, which makes no difference to a join.
    have hreported := h.flags_subset h' horders hid hreports a.fileId
    have hreported' := h'.flags_subset h horders.symm hid.symm
      (fun b hb a ha heq => (hreports a ha b hb heq.symm).symm) a.fileId
    rw [hid] at hreported hreported'
    refine congrArg some (Flags.le_antisymm ?_ ?_)
    · exact Flags.joinAll_mono (List.append_subset.mpr ⟨List.subset_append_left _ _,
        List.subset_append_of_subset_right _ hreported'⟩)
    · exact Flags.joinAll_mono (List.append_subset.mpr ⟨List.subset_append_left _ _,
        List.subset_append_of_subset_right _ hreported⟩)

end Confluence

/-- What operations come to is raised from their replay, and the calls are the same to the
refreshes. -/
theorem settled_replayed {σ : Type} {env : Surroundings σ} {ops : List Operation} {s : σ}
    {script : List Asked}
    (hasked : (callsDuring env (ops ++ [.settle]) (fresh true) s).map Flight.asked = script) :
    (callsDuring env (ops ++ [.settle]) (fresh true) s).map bearing =
        (callsDuring .replaying (ops ++ [.settle]) (fresh false) script).map bearing ∧
      (operate .replaying (ops ++ [.settle]) (fresh false) script).1.RaisedTo
        (settled env ops s).1 := by
  subst hasked
  have hbeside : Beside _ (operate env (ops ++ [.settle]) (fresh true) s).1 :=
    operate_replayed .fresh (ops ++ [.settle]) s
  have hcalls : List.Forall₂ _ _ (callsDuring env (ops ++ [.settle]) (fresh true) s) :=
    callsDuring_replayed .fresh (ops ++ [.settle]) s
  obtain ⟨hnoted, -⟩ := operate_noted env (ops ++ [.settle]) (fresh true) s .empty
  refine ⟨map_bearing_of_agreesWith hcalls fun f hf => ?_, ?_⟩
  · exact waits_of_mem_callsDuring Beside.fresh.sound hf
  · rw [settled, hnoted]
    exact hbeside.raised

/-- Refreshes converge. If none is lost and every reported flag comes after those before it, one
refresh is ordered after each answered stage call that leaves a record; once the run has waited for
its refreshes all of them have come back, and the flags of the record are those that the accepted
calls set and those that were reported about its file. Wherever the same stage calls are answered
alike and the same refreshes bring the same reports, the flags are the same in the end, whenever
each refresh comes back. -/
theorem refreshes_converge {σ : Type} {env : Surroundings σ} {Owes : σ → Multiset Ticket → Prop}
    (henv : env.Delivers Owes) {s : σ} (hs : Owes s 0) (ops : List Operation)
    (hordered : (settled env ops s).2.2.Ordered) :
    Converged (callsDuring env (ops ++ [.settle]) (fresh true) s) (settled env ops s).1
        (settled env ops s).2.2 ∧
      ∀ {τ : Type} {env' : Surroundings τ} {Owes' : τ → Multiset Ticket → Prop} {s' : τ},
        env'.Delivers Owes' → Owes' s' 0 → (settled env' ops s').2.2.Ordered →
        (callsDuring env' (ops ++ [.settle]) (fresh true) s').map Flight.asked =
          (callsDuring env (ops ++ [.settle]) (fresh true) s).map Flight.asked →
        (∀ a ∈ (settled env ops s).2.2.back, ∀ b ∈ (settled env' ops s').2.2.back,
          a.ticket = b.ticket → a.report = b.report) →
        (settled env' ops s').1.record.map (·.flags) =
          (settled env ops s).1.record.map (·.flags) := by
  have hconverged := converged_settled henv hs ops hordered
  refine ⟨hconverged, fun henv' hs' hordered' hasked hreports => ?_⟩
  have hconverged' := converged_settled henv' hs' ops hordered'
  obtain ⟨hcalls, hraised⟩ := settled_replayed (Eq.refl _)
  obtain ⟨hcalls', hraised'⟩ := settled_replayed hasked
  refine hconverged.flags_eq hconverged' (hcalls'.trans hcalls.symm)
    (hraised'.id.trans hraised.id.symm) ?_ hreports
  exact hraised'.map_fileId.trans hraised.map_fileId.symm

/-- The execution fails, and of the three refreshes the first is never answered, the second reports
on another file and the third is ahead of the stages. They come back in the end, the first one last;
or each of them at once; or in the end, the last one first: the flags are the same. -/
theorem refreshes_converge_in_any_order :
    let answers := answersBut .execute (.server 500 "script failed")
    let report : StatusReport := ⟨"a1", ⟨true, true, true, false⟩⟩
    let stray : StatusReport := ⟨"b2", ⟨true, true, true, true⟩⟩
    let reports : Ticket → Option StatusReport := fun ticket =>
      [none, some stray, some report][ticket.number]?.join
    let script : Script :=
      { upload := [.answer (.ok ⟨"a.csv", true, "", "a1"⟩)]
        process := [.answer (.ok ⟨"a1", "", some "script", none⟩)]
        execute := [.answer (.error (.server 500 "script failed"))]
        result := []
        status := [.silence, .answer (.ok stray), .answer (.ok report)]
        download := [] }
    let timed := Timeline.surroundings Script.service
    let ops : List Operation := [.stageFile (.ofBytes "a.csv" []), .start]
    let x := settled timed ops (.start script 1000)
    let y := settled (.prompt answers reports) ops []
    let z := settled (.tardy answers reports) ops []
    (x.2.2.back.map (·.ticket.number) = [1, 2, 0] ∧
        y.2.2.back.map (·.ticket.number) = [0, 1, 2] ∧
        z.2.2.back.map (·.ticket.number) = [2, 1, 0]) ∧
      Converged (callsDuring timed (ops ++ [.settle]) (fresh true) (.start script 1000)) x.1 x.2.2 ∧
      x.1.record.map (·.flags) = some report.flags ∧
      y.1.record.map (·.flags) = x.1.record.map (·.flags) ∧
      z.1.record.map (·.flags) = x.1.record.map (·.flags) := by
  intro answers report stray reports script timed ops x y z
  have hordered : x.2.2.Ordered ∧ y.2.2.Ordered ∧ z.2.2.Ordered := by
    unfold RefreshLog.Ordered
    decide +kernel
  obtain ⟨hx, hy, hz⟩ := hordered
  obtain ⟨hconverged, hsame⟩ := refreshes_converge (Timeline.delivers_surroundings Script.service)
    (Timeline.owed_start script 1000) ops hx
  have hprompt := Surroundings.delivers_prompt answers reports
  have htardy := Surroundings.delivers_tardy answers reports
  refine ⟨by decide +kernel, hconverged, by decide +kernel, ?_, ?_⟩
  · exact hsame hprompt rfl hy (by decide +kernel) (by decide +kernel)
  · exact hsame htardy rfl hz (by decide +kernel) (by decide +kernel)

end Run

end CsvCleaning
