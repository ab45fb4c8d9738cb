import CsvCleaning.Proofs.Run.Orders

/-!
# What the footer says of a run

The footer is meant to tell of a failure when the run has failed, and of success when its result is
there. It looks at the ready flag of the record first, which a report can raise before the result is
fetched, and also when fetching it has failed. A footer that does not agree with the run is due to
such a report of the run about its file; without one the footer agrees at every moment.
-/

namespace CsvCleaning

/-- The footer tells of success exactly if the record has the ready flag. -/
theorem Progress.footerOf_eq_footerReady_iff {seen : Snapshot} :
    footerOf seen = footerReady ↔ ∃ a ∈ seen.record, a.flags.ready = true := by
  have hany : seen.record.any (·.flags.ready) = true ↔ ∃ a ∈ seen.record, a.flags.ready = true := by
    cases seen.record <;> simp
  rw [← hany]
  unfold footerOf
  split
  · simp [*]
  · have hother : footerFailed ≠ footerReady ∧ footerBusy ≠ footerReady ∧
        footerWaiting ≠ footerReady := by decide
    split
    · simp [*]
    · split <;> simp [*]

/-- The footer of a failed run tells of the failure if the record does not have the ready flag. -/
theorem Progress.footerOf_of_failed {seen : Snapshot} {stage : Stage} {message : String}
    (hphase : seen.phase = .failed stage message)
    (hready : ¬ ∃ a ∈ seen.record, a.flags.ready = true) : footerOf seen = footerFailed := by
  have hany : seen.record.any (·.flags.ready) = false := by
    revert hready
    cases seen.record <;> simp
  simp [footerOf, hany, hphase, Phase.errorMessage?]

/-- Flags without the ready flag are below all others without it. -/
theorem Flags.le_of_ready_eq_false {f : Flags} (h : f.ready = false) :
    f ≤ ⟨true, true, true, false⟩ :=
  ⟨fun _ => rfl, fun _ => rfl, fun _ => rfl, fun hready => absurd hready (by simp [h])⟩

/-- All stages are complete only if the run is ready. -/
theorem Phase.eq_ready_of_completed {phase : Phase} (h : 3 < phase.completed) : phase = .ready := by
  cases phase with
  | ready => rfl
  | failed stage message => cases stage <;> simp [completed, Stage.index] at h
  | _ => simp [completed] at h

namespace Run

/-- What the footer says agrees with the phase: it tells of a failure whenever the run has failed,
and of success only if the run is ready. -/
structure FooterAgrees (r : Run) : Prop where
  failed : ∀ stage message, r.phase = .failed stage message →
    (Progress.ofSnapshot r.snapshot).footer = Progress.footerFailed
  ready : (Progress.ofSnapshot r.snapshot).footer = Progress.footerReady → r.phase = .ready

/-- Some report of the run about its file said that it is ready. -/
def ReportedReady (r : Run) (log : RefreshLog) : Prop :=
  ∃ a ∈ r.record, ∃ f ∈ log.flags r.id a.fileId, f.ready = true

/-- The footer agrees with a run exactly if its record has the ready flag only when it is ready. -/
theorem footerAgrees_iff {r : Run} :
    r.FooterAgrees ↔ ∀ a ∈ r.record, a.flags.ready = true → r.phase = .ready := by
  constructor
  · intro h a ha hready
    exact h.ready (Progress.footerOf_eq_footerReady_iff.mpr ⟨a, ha, hready⟩)
  · intro h
    refine ⟨fun stage message hphase => ?_, fun hfooter => ?_⟩
    · refine Progress.footerOf_of_failed hphase fun ⟨a, ha, hready⟩ => ?_
      cases hphase.symm.trans (h a ha hready)
    · obtain ⟨a, ha, hready⟩ := Progress.footerOf_eq_footerReady_iff.mp hfooter
      exact h a ha hready

/-- The footer agrees with a run that accords with its refreshes, unless one of them reported that
the file is ready. -/
theorem Accords.footerAgrees {r : Run} {log : RefreshLog} (h : r.Accords log) :
    r.FooterAgrees ∨ r.ReportedReady log := by
  rw [or_iff_not_imp_right, footerAgrees_iff]
  intro hreported a ha hready
  refine Phase.eq_ready_of_completed (Nat.lt_of_not_le fun hcompleted => ?_)
  -- Neither the complete stages nor the reports have the flag, so the record cannot have it.
  have hunready : a.flags ≤ ⟨true, true, true, false⟩ := by
    refine Flags.le_trans (h.flags a ha) (Flags.join_le_iff.mpr ⟨?_, ?_⟩)
    · exact Flags.le_of_ready_eq_false (decide_eq_false (Nat.not_lt.mpr hcompleted))
    · refine Flags.joinAll_le_iff.mpr fun f hf => Flags.le_of_ready_eq_false ?_
      exact Bool.eq_false_iff.mpr fun hset => hreported ⟨a, ha, f, hf, hset⟩
  exact absurd (hunready.2.2.2 hready) (by decide)

/-- The refreshes that have come back stay noted. -/
theorem Turns.back_subset {σ : Type} {env : Surroundings σ} {x y : Run × σ × RefreshLog}
    (t : Turns env.noted x y) : x.2.2.back ⊆ y.2.2.back := by
  induction t with
  | refl => exact fun _ ha => ha
  | tail _ t ih =>
    refine List.Subset.trans ih ?_
    cases t with
    | arrive r s => exact List.subset_append_left _ _
    | settle r s seen => exact List.subset_append_left _ _
    | _ => exact fun _ ha => ha

/-- What was reported stays reported. -/
theorem ReportedReady.mono {r : Run} {log log' : RefreshLog} (h : r.ReportedReady log)
    (hback : log.back ⊆ log'.back) : r.ReportedReady log' := by
  obtain ⟨a, ha, f, hf, hready⟩ := h
  obtain ⟨report, hreport, hfileId, rfl⟩ := RefreshLog.mem_flags.mp hf
  obtain ⟨arrival, harrival, hrun, hreported⟩ := RefreshLog.mem_reports.mp hreport
  have hreport' := RefreshLog.mem_reports.mpr ⟨arrival, hback harrival, hrun, hreported⟩
  exact ⟨a, ha, report.flags, RefreshLog.mem_flags.mpr ⟨report, hreport', hfileId, rfl⟩, hready⟩

/-- The footer agrees with a run exactly if its record has the ready flag only when it is ready; and
it agrees after any operations and during every stage call, unless a refresh of the run has reported
that its file is ready. -/
theorem footer_agrees_unless_reported_ready {σ : Type} (env : Surroundings σ) (refreshing : Bool)
    (s : σ) (ops : List Operation) :
    let x := operate env.noted ops (fresh refreshing) (s, .empty)
    (x.1.FooterAgrees ↔ ∀ a ∈ x.1.record, a.flags.ready = true → x.1.phase = .ready) ∧
      (x.1.FooterAgrees ∨ x.1.ReportedReady x.2.2) ∧
      ∀ op, ∀ f ∈ x.1.flightsOf env.noted x.2 op,
        f.run.FooterAgrees ∨ f.run.ReportedReady (x.1.perform env.noted x.2 op).2.2.2 := by
  intro x
  have haccords : x.1.Accords x.2.2 := accords_operate env ops refreshing s
  refine ⟨footerAgrees_iff, haccords.footerAgrees, fun op f hf => ?_⟩
  obtain ⟨y, hbefore, hafter⟩ := turns_flightsOf env.noted hf
  rcases (hbefore.accords haccords).footerAgrees with hagrees | hreported
  · exact .inl hagrees
  · exact .inr (hreported.mono hafter.back_subset)

/-- The footer does not agree with every reachable run: fetching the result has failed, a refresh
has reported that the file is ready, and the footer tells of success. -/
theorem footer_disagrees_after_report :
    let env := Surroundings.prompt (answersBut .result (.server 500 "no result"))
      fun ticket => some ⟨ticket.fileId, ⟨true, true, true, true⟩⟩
    let r := (operate env [.stageFile (.ofBytes "a.csv" []), .start, .settle] (fresh true) []).1
    Reachable r ∧ r.phase = .failed .result "no result" ∧
      (Progress.ofSnapshot r.snapshot).footer = Progress.footerReady ∧ ¬ r.FooterAgrees := by
  intro env r
  have hphase : r.phase = .failed .result "no result" := by decide +kernel
  have hfooter : (Progress.ofSnapshot r.snapshot).footer = Progress.footerReady := by decide +kernel
  refine ⟨.operate env _ (.fresh true) [], hphase, hfooter, fun h => ?_⟩
  cases hphase.symm.trans (h.ready hfooter)

end Run

end CsvCleaning
