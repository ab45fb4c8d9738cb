import CsvCleaning.Proofs.Run.Orders

/-!
# Clearing a run

A cleared run is a run that has not begun, under later numbers. What was ordered before it was
cleared has numbers below these, and so nothing that comes back later of it can be told by the run:
it goes on as a run that has not begun would, whatever the old refreshes say and whenever they come
back, also about a file with the same id.
-/

namespace CsvCleaning

/-- The same surroundings, in which some more refreshes come back whenever the run takes any. -/
def Surroundings.amid {σ : Type} (env : Surroundings σ) (strays : List Arrival) :
    Surroundings σ where
  call := env.call
  order := env.order
  arrived s := (strays ++ (env.arrived s).1, (env.arrived s).2)
  settle tickets seen s :=
    (strays ++ (env.settle tickets seen s).1, (env.settle tickets seen s).2)

/-- Prompt surroundings are mirrored by themselves amid refreshes of earlier numbers, if what they
report does not depend on numbers. -/
theorem Surroundings.mirrors_prompt_amid (answers : (c : Call) → Answer c)
    (reports : Ticket → Option StatusReport) {runs tickets : Nat}
    (hreports : ∀ ticket : Ticket, reports (ticket.renumber runs tickets) = reports ticket)
    {strays : List Arrival} (hstrays : ∀ a ∈ strays, a.ticket.run < runs) :
    (prompt answers reports).Mirrors ((prompt answers reports).amid strays) runs tickets
      fun s s' => s' = s.map (·.renumber runs tickets) := by
  have harrivals : ∀ s : List Ticket,
      (strays ++ (s.map (·.renumber runs tickets)).map fun ticket =>
          Arrival.mk ticket (reports ticket)).filter (runs ≤ ·.ticket.run) =
        (s.map fun ticket => Arrival.mk ticket (reports ticket)).map (·.renumber runs tickets) := by
    intro s
    have hnone : strays.filter (runs ≤ ·.ticket.run) = [] := by
      refine List.filter_eq_nil_iff.mpr fun a ha => ?_
      simpa using hstrays a ha
    rw [List.filter_append, hnone, List.nil_append, List.map_map, List.map_map,
      List.filter_eq_self.mpr]
    · exact List.map_congr_left fun ticket _ => by
        simp only [Function.comp, Arrival.renumber, hreports]
    · intro a ha
      obtain ⟨ticket, -, rfl⟩ := List.mem_map.mp ha
      simp [Ticket.renumber]
  constructor
  · rintro s _ rfl c seen
    exact ⟨rfl, rfl⟩
  · rintro s _ rfl ticket
    simp [amid, prompt]
  · rintro s _ rfl
    exact ⟨harrivals s, rfl⟩
  · rintro s _ rfl expected seen
    exact ⟨harrivals s, rfl⟩

namespace Run

/-- A cleared run is one that has not begun, under later numbers. -/
theorem clear_eq_renumber (r : Run) :
    r.clear = (fresh r.refreshing).renumber (r.id + 1) r.ordered := by
  simp [clear, publish, snapshot, fresh, renumber, Snapshot.renumber, Snapshot.idle]

/-- Staging a file in a run that has come to rest after its beginning clears it first. -/
theorem stageFile_eq_clear {r : Run} (hidle : r.phase ≠ .idle) (hbusy : r.phase.isBusy = false)
    (file : SourceFile) : r.stageFile file = r.clear.stageFile file := by
  have hrest : r.clear.phase.isBusy = false := rfl
  unfold stageFile
  rw [hbusy, hrest]
  simp [hidle, clear, publish]

/-- Only a refresh that was ordered for the run, and that reports about its file, changes the
record. -/
theorem of_record_receive_ne {r : Run} {a : Arrival} (h : (r.receive a).record ≠ r.record) :
    a.ticket ∈ r.pending ∧ a.ticket.run = r.id ∧
      ∃ report b, a.report = some report ∧ r.record = some b ∧ report.fileId = b.fileId := by
  rw [receive_eq] at h
  dsimp only at h
  cases htaken : r.taken? a with
  | none => simp [htaken] at h
  | some report =>
    obtain ⟨hpending, hrun, hreport⟩ := taken?_eq_some htaken
    cases hrecord : r.record with
    | none => simp [hrecord] at h
    | some b =>
      by_cases hid : report.fileId = b.fileId
      · exact ⟨hpending, hrun, report, b, hreport, rfl, hid⟩
      · simp [htaken, hrecord, Record.mergeStatus_of_ne hid] at h

/-- Runs are isolated from each other.

A user has done anything with a run, in any surroundings, and refreshes may still be on their way.
All of them were ordered under earlier numbers than those which a cleared run goes on with. The
cleared run is one that has not begun, under these numbers; and whatever is done with it afterwards,
its history is that of a run which has not begun, in surroundings that differ only in what comes
back of earlier refreshes. The same holds for staging a file in a run that has come to rest. Of all
refreshes that come back, only one of the run itself and about its file changes a record. -/
theorem cleared_run_is_fresh {σ₀ : Type} (before : Surroundings σ₀) (refreshing : Bool) (s₀ : σ₀)
    (earlier : List Operation) {r : Run} {s₁ : σ₀} {log : RefreshLog}
    (hr : operate before.noted earlier (fresh refreshing) (s₀, .empty) = (r, s₁, log)) :
    (∀ ticket ∈ log.orders, ticket.run < r.id + 1 ∧ ticket.number < r.ordered) ∧
      r.clear = (fresh refreshing).renumber (r.id + 1) r.ordered ∧
      (∀ {σ σ' : Type} {env : Surroundings σ} {env' : Surroundings σ'} {Alike : σ → σ' → Prop},
        env.Mirrors env' (r.id + 1) r.ordered Alike →
        ∀ {s : σ} {s' : σ'}, Alike s s' → ∀ ops,
          history env' ops r.clear s' =
              (history env ops (fresh refreshing) s).map (·.renumber (r.id + 1) r.ordered) ∧
            ∀ file, r.phase ≠ .idle → r.phase.isBusy = false →
              (r.stageFile file).2 = .ok () ∧
                history env' ops (r.stageFile file).1 s' =
                  (history env ops ((fresh refreshing).stageFile file).1 s).map
                    (·.renumber (r.id + 1) r.ordered)) ∧
      ∀ a, (r.receive a).record ≠ r.record →
        a.ticket ∈ r.pending ∧ a.ticket.run = r.id ∧
          ∃ report b, a.report = some report ∧ r.record = some b ∧ report.fileId = b.fileId := by
  have haccords := accords_operate before earlier refreshing s₀
  have hturns := turns_operate before.noted earlier (fresh refreshing) (s₀, .empty)
  rw [hr] at haccords hturns
  have hrefreshing : r.refreshing = refreshing := (hturns.sound (.of_idle rfl rfl rfl)).2
  have hclear : r.clear = (fresh refreshing).renumber (r.id + 1) r.ordered :=
    hrefreshing ▸ clear_eq_renumber r
  refine ⟨?_, hclear, ?_, fun a => of_record_receive_ne⟩
  · intro ticket hticket
    have hnumber : ticket.number ∈ log.orders.map (·.number) := List.mem_map_of_mem hticket
    rw [haccords.numbers, List.mem_range] at hnumber
    exact ⟨Nat.lt_succ_of_le (haccords.earlier ticket hticket), hnumber⟩
  · intro σ σ' env env' Alike hmirrors s s' hs ops
    refine ⟨hclear ▸ history_mirrored hmirrors ops (fresh refreshing) hs, ?_⟩
    intro file hidle hbusy
    rw [stageFile_eq_clear hidle hbusy, hclear, stageFile_renumber]
    exact ⟨rfl, history_mirrored hmirrors ops ((fresh refreshing).stageFile file).1 hs⟩

/-- After a run that was carried out to its end, with no refresh back yet, a new one goes on as one
that has not begun, although the old refreshes report on a file with the same id that it is
ready. -/
theorem cleared_run_is_fresh_amid_reports :
    let earlier : List Operation := [.stageFile (.ofBytes "a.csv" []), .start]
    let x := operate Surroundings.obliging.noted earlier (fresh true) ((), .empty)
    let env := Surroundings.prompt (answersBut .result (.server 500 "no result"))
      fun ticket => some ⟨ticket.fileId, ⟨true, true, false, false⟩⟩
    let strays := x.2.2.orders.map fun ticket =>
      Arrival.mk ticket (some ⟨ticket.fileId, ⟨true, true, true, true⟩⟩)
    (x.1.phase = .ready ∧ strays.length = 4 ∧ x.2.2.back = []) ∧
      ∀ ops,
        history (env.amid strays) ops x.1.clear [] =
            (history env ops (fresh true) []).map (·.renumber 1 4) ∧
          ∀ file,
            history (env.amid strays) ops (x.1.stageFile file).1 [] =
              (history env ops ((fresh true).stageFile file).1 []).map (·.renumber 1 4) := by
  intro earlier x env strays
  have hphase : x.1.phase = .ready := by decide +kernel
  have hid : x.1.id = 0 := by decide +kernel
  have hordered : x.1.ordered = 4 := by decide +kernel
  obtain ⟨hearlier, -, hfresh, -⟩ :=
    cleared_run_is_fresh .obliging true () earlier (show x = (x.1, x.2.1, x.2.2) from rfl)
  have hstrays : ∀ a ∈ strays, a.ticket.run < x.1.id + 1 := by
    intro a ha
    obtain ⟨ticket, hticket, rfl⟩ := List.mem_map.mp ha
    exact (hearlier ticket hticket).1
  have hmirrors : env.Mirrors (env.amid strays) (x.1.id + 1) x.1.ordered _ :=
    Surroundings.mirrors_prompt_amid _ _ (fun _ => rfl) hstrays
  refine ⟨⟨hphase, by decide +kernel, by decide +kernel⟩, fun ops => ?_⟩
  obtain ⟨hclear, hstage⟩ := hfresh hmirrors (show ([] : List Ticket) = [].map _ from rfl) ops
  rw [hid, hordered] at hclear hstage
  refine ⟨hclear, fun file => (hstage file ?_ ?_).2⟩
  · rw [hphase]
    simp
  · rw [hphase]
    rfl

end Run

end CsvCleaning
