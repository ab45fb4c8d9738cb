import CsvCleaning.Proofs.Run.Soundness

/-!
# What a run holds in each phase

Which of file, record and result a run holds, and which flags its record has, follows from its
phase. This holds in every reachable run: whatever the service answers, whenever refreshes come
back, and also after a stage call that was given up.
-/

namespace CsvCleaning.Run

/-- Phase by phase, what a run holds. -/
structure Consistent (r : Run) : Prop where
  idle : r.phase = .idle → r.record = none ∧ r.result = none
  upload : (r.phase = .uploading ∨ ∃ message, r.phase = .failed .upload message) →
    r.file.isSome ∧ r.record = none
  process : (r.phase = .uploaded ∨ r.phase = .processing ∨
      ∃ message, r.phase = .failed .process message) →
    r.file.isSome ∧ ∃ a, r.record = some a ∧ a.flags.uploaded = true
  execute : (r.phase = .processed ∨ r.phase = .executing ∨
      ∃ message, r.phase = .failed .execute message) →
    r.file.isSome ∧ ∃ a, r.record = some a ∧ a.flags.uploaded = true ∧ a.flags.processed = true
  result : (r.phase = .executed ∨ r.phase = .fetchingResult ∨
      ∃ message, r.phase = .failed .result message) →
    r.file.isSome ∧ ∃ a, r.record = some a ∧ a.flags.uploaded = true ∧ a.flags.processed = true ∧
      a.flags.executed = true ∧ a.processedRowCount.isSome
  ready : r.phase = .ready →
    r.file = none ∧ ∃ a table, r.record = some a ∧ r.result = some table ∧
      a.flags = ⟨true, true, true, true⟩ ∧ a.processedRowCount.isSome ∧ table.fileId = a.fileId
  resultOnly : r.result.isSome → r.phase = .ready
  error : ∀ a, r.record = some a →
    ∀ message, a.lastError = some message ↔ ∃ stage, r.phase = .failed stage message

/-- Around a stage, a sound run has completed the stages before it; from the first call on it
holds its file. -/
theorem Sound.at_stage {r : Run} (h : r.Sound) (stage : Stage)
    (hphase : r.phase = stage.resumePhase ∨ r.phase = stage.busyPhase ∨
      ∃ message, r.phase = .failed stage message) :
    r.phase.completed = stage.index ∧ (r.phase ≠ .idle → r.file.isSome) := by
  rcases hphase with hphase | hphase | ⟨message, hphase⟩
  · refine ⟨by rw [hphase, Stage.completed_resumePhase], fun hidle => h.file hidle ?_⟩
    rw [hphase]
    exact stage.resumePhase_ne_ready
  · refine ⟨by rw [hphase, Stage.completed_busyPhase], fun hidle => h.file hidle ?_⟩
    rw [hphase]
    exact stage.busyPhase_ne.2
  · refine ⟨by rw [hphase]; rfl, fun hidle => h.file hidle ?_⟩
    simp [hphase]

/-- A phase has a message exactly if it is a failed one. -/
theorem errorMessage?_eq_some_iff {phase : Phase} {message : String} :
    phase.errorMessage? = some message ↔ ∃ stage, phase = .failed stage message := by
  cases phase <;> simp [Phase.errorMessage?]

/-- Every reachable run holds what belongs to its phase. -/
theorem consistent_of_reachable {r : Run} (hr : Reachable r) : r.Consistent := by
  have h := hr.sound
  constructor
  · intro hphase
    exact ⟨h.record_eq_none (by rw [hphase]; rfl), h.result_eq_none (by rw [hphase]; simp)⟩
  · intro hphase
    obtain ⟨hn, hfile⟩ := h.at_stage .upload (.inr hphase)
    refine ⟨hfile ?_, h.record_eq_none hn⟩
    rcases hphase with hphase | ⟨message, hphase⟩ <;> simp [hphase]
  · intro hphase
    obtain ⟨hn, hfile⟩ := h.at_stage .process hphase
    obtain ⟨a, ha⟩ := h.exists_record (by rw [hn]; decide)
    obtain ⟨huploaded, -⟩ := h.flag_of_lt ha
    refine ⟨hfile ?_, a, ha, huploaded (by rw [hn]; decide)⟩
    rcases hphase with hphase | hphase | ⟨message, hphase⟩ <;> simp [hphase]
  · intro hphase
    obtain ⟨hn, hfile⟩ := h.at_stage .execute hphase
    obtain ⟨a, ha⟩ := h.exists_record (by rw [hn]; decide)
    obtain ⟨huploaded, hprocessed, -⟩ := h.flag_of_lt ha
    refine ⟨hfile ?_, a, ha, huploaded (by rw [hn]; decide), hprocessed (by rw [hn]; decide)⟩
    rcases hphase with hphase | hphase | ⟨message, hphase⟩ <;> simp [hphase]
  · intro hphase
    obtain ⟨hn, hfile⟩ := h.at_stage .result hphase
    obtain ⟨a, ha⟩ := h.exists_record (by rw [hn]; decide)
    obtain ⟨huploaded, hprocessed, hexecuted, -⟩ := h.flag_of_lt ha
    refine ⟨hfile ?_, a, ha, huploaded (by rw [hn]; decide), hprocessed (by rw [hn]; decide),
      hexecuted (by rw [hn]; decide), h.rows a ha (by rw [hn]; decide)⟩
    rcases hphase with hphase | hphase | ⟨message, hphase⟩ <;> simp [hphase]
  · intro hphase
    have hn : r.phase.completed = 4 := by rw [hphase]; rfl
    obtain ⟨a, ha⟩ := h.exists_record (by rw [hn]; decide)
    obtain ⟨table, htable⟩ := Option.isSome_iff_exists.mp (h.result.mpr hphase)
    obtain ⟨huploaded, hprocessed, hexecuted, hready⟩ := h.flag_of_lt ha
    refine ⟨h.noFile hphase, a, table, ha, htable, ?_, h.rows a ha (by rw [hn]; decide),
      h.resultId table htable a ha⟩
    rw [hn] at huploaded hprocessed hexecuted hready
    calc
      a.flags = ⟨a.flags.uploaded, a.flags.processed, a.flags.executed, a.flags.ready⟩ := rfl
      _ = ⟨true, true, true, true⟩ := by
        rw [huploaded (by decide), hprocessed (by decide), hexecuted (by decide),
          hready (by decide)]
  · exact h.result.mp
  · intro a ha message
    rw [h.error a ha, errorMessage?_eq_some_iff]

/-- A run that was started with a file and met no failure is reachable, ready, and holds what
belongs to this phase. -/
theorem consistent_of_obliging_start :
    let staged := ((fresh true).perform .obliging () (.stageFile (.ofBytes "a.csv" []))).2.1
    let started := (staged.perform .obliging () .start).2.1
    Reachable started ∧ started.phase = .ready ∧ started.Consistent := by
  have hstarted := Reachable.perform .obliging () .start
    (.perform .obliging () (.stageFile (.ofBytes "a.csv" [])) (.fresh true))
  exact ⟨hstarted, by decide +kernel, consistent_of_reachable hstarted⟩

end CsvCleaning.Run
