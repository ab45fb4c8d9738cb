import CsvCleaning.Proofs.Flags
import CsvCleaning.Proofs.Run.Orders
import CsvCleaning.Proofs.Table.Building
import CsvCleaning.Proofs.Text.Numerals
import CsvCleaning.Service.Mock

/-!
# What a rehearsal answers

The table that a rehearsal makes up is always accepted, since its columns are numbered and its rows
are made of them. So a stage whose turn it is fails only if it is told to: if all stages before it
are complete in the rehearsal, its call gets a reply that no check refuses, and the stage is then
complete too.
-/

namespace CsvCleaning

/-- A key after entries have been put in is of the map before, or of an entry. -/
theorem SortedMap.mem_keys_foldl_insert {α : Type} {entries : List (String × α)} {k : String}
    {m : SortedMap α} (h : k ∈ (entries.foldl (fun m e => m.insert e.1 e.2) m).keys) :
    k ∈ m.keys ∨ k ∈ entries.map (·.1) := by
  induction entries generalizing m with
  | nil => exact .inl h
  | cons e rest ih =>
    rw [List.map_cons, List.mem_cons]
    rcases ih h with hk | hk
    · obtain ⟨d, hd, rfl⟩ := List.mem_map.mp hk
      rcases key_of_mem_insertSorted hd with hd | hd
      · exact .inr (.inl hd)
      · exact .inl (List.mem_map_of_mem hd)
    · exact .inr (.inr hk)

/-- The keys of a map of entries are those of the entries. -/
theorem SortedMap.mem_map_fst_of_mem_keys_ofList {α : Type} {entries : List (String × α)}
    {k : String} (h : k ∈ (SortedMap.ofList entries).keys) : k ∈ entries.map (·.1) := by
  rcases mem_keys_foldl_insert h with h | h
  · cases h
  · exact h

namespace Mock

/-- Columns with the same name are the same. -/
theorem columnName_injective : Function.Injective columnName := by
  intro i j h
  have hnumbered (n : Nat) : "id" ≠ "column_" ++ toString n := by
    intro hid
    have hlist := congrArg String.toList hid
    rw [String.toList_append] at hlist
    cases congrArg List.head? hlist
  unfold columnName at h
  split at h <;> split at h
  · omega
  · exact absurd h (hnumbered j)
  · exact absurd h.symm (hnumbered i)
  · have hdigits := congrArg String.toList h
    rw [String.toList_append, String.toList_append, List.append_cancel_left_eq,
      Nat.toString_eq_ofList_toDigits, Nat.toString_eq_ofList_toDigits, String.toList_ofList,
      String.toList_ofList] at hdigits
    exact Digits.toDigits_injective hdigits

/-- The names of the columns differ. -/
theorem nodup_columnNames (m : Mock) : m.columnNames.Nodup :=
  List.nodup_range.map columnName_injective

/-- Every cell of a row is in a column. -/
theorem mem_columnNames_of_mem_keys {m : Mock} {row : Row} (h : row ∈ m.tableRows) {k : String}
    (hk : k ∈ row.keys) : k ∈ m.columnNames := by
  obtain ⟨i, -, rfl⟩ := List.mem_map.mp h
  have hkeys := SortedMap.mem_map_fst_of_mem_keys_ofList hk
  rwa [List.map_map] at hkeys

/-- The table that is made up is accepted. -/
theorem build_table (m : Mock) (fileId : String) :
    ResultTable.build fileId m.tableRows m.columnNames m.rows =
      .ok ⟨fileId, m.tableRows, m.columnNames, m.rows⟩ :=
  ResultTable.build_eq_ok_iff.mpr
    ⟨m.nodup_columnNames, fun _ hrow _ hk => mem_columnNames_of_mem_keys hrow hk, rfl⟩

/-- The rehearsal after a stage has succeeded. -/
def complete (m : Mock) (stage : Stage) : Mock :=
  m.advance (·.join stage.flag)

/-- A file that is uploaded is known. -/
theorem checkKnown_eq_ok {m : Mock} (hnamed : Text.allBlank m.fileId = false)
    (huploaded : m.progress.uploaded = true) : m.checkKnown m.fileId = .ok () := by
  rw [checkKnown, FileId.check_eq_ok_iff.mpr hnamed]
  dsimp only
  rw [if_pos ⟨rfl, huploaded⟩]

/-- A stage that is told to fail does, and nothing comes of its call. -/
theorem answer_of_failure {m : Mock} {c : Call} {stage : Stage} {f : Failure}
    (hc : c.stage? = some stage) (h : m.failures stage = some f) : answer c m = (.error f, m) := by
  have hstage : stageOf? c = some stage := by rw [← hc]; cases c <;> rfl
  rw [answer, hstage, Option.bind_some, h]

/-- A call whose stage is not told to fail is carried out. -/
theorem answer_of_no_failure {m : Mock} {c : Call} (h : ∀ stage ∈ c.stage?, m.failures stage = none) :
    answer c m = m.perform c := by
  have hnone : (stageOf? c).bind m.failures = none := by
    cases c <;> first | rfl | exact h _ rfl
  rw [answer, hnone]

/-- A stage whose turn it is succeeds unless it is told to fail: if the stages before it are
complete and its call is about the file, the call gets a reply that no check refuses. -/
theorem answer_of_turn {m : Mock} {c : Call} {stage : Stage}
    (hnamed : Text.allBlank m.fileId = false) (hc : c.stage? = some stage)
    (hbefore : Flags.upTo stage.index ≤ m.progress)
    (habout : stage ≠ .upload → c.argument = m.fileId) (h : m.failures stage = none) :
    ∃ reply, answer c m = (.ok reply, m.complete stage) ∧ c.refusal? reply = none := by
  have hnone : ∀ other ∈ c.stage?, m.failures other = none := by
    intro other hother
    rw [hc, Option.mem_some_iff] at hother
    rwa [← hother]
  rw [answer_of_no_failure hnone]
  obtain ⟨huploaded, hprocessed, hexecuted, -⟩ := Flags.upTo_le_iff.mp hbefore
  have hknown : 0 < stage.index → m.checkKnown m.fileId = .ok () := fun hlt =>
    checkKnown_eq_ok hnamed (huploaded hlt)
  cases c with
  | upload file =>
    cases hc
    refine ⟨⟨file.name, true, "FILE WAS UPLOADED SUCCESSFULLY", m.fileId⟩, ?_, ?_⟩
    · simp [perform, complete, advance, Flags.join, Stage.flag, Flags.none]
    · simp [Call.refusal?, hnamed]
  | process fileId =>
    cases hc
    obtain rfl : fileId = m.fileId := habout (by decide)
    refine ⟨⟨m.fileId, "cleaning script generated", some script, some (m.summary m.fileId)⟩, ?_, ?_⟩
    · simp [perform, hknown (by decide), complete, advance, Flags.join, Stage.flag, Flags.none]
    · simp [Call.refusal?]
  | execute fileId =>
    cases hc
    obtain rfl : fileId = m.fileId := habout (by decide)
    refine ⟨⟨"script executed", m.rows⟩, ?_, rfl⟩
    simp [perform, hknown (by decide), hprocessed (by decide), complete, advance, Flags.join,
      Stage.flag, Flags.none]
  | result fileId =>
    cases hc
    obtain rfl : fileId = m.fileId := habout (by decide)
    refine ⟨⟨m.fileId, m.tableRows, m.columnNames, m.rows⟩, ?_, ?_⟩
    · simp [perform, hknown (by decide), hexecuted (by decide), build_table, complete, advance,
        Flags.join, Stage.flag, Flags.none]
    · simp [Call.refusal?]
  | health | status fileId | script fileId | download fileId => cases hc

/-- The reply to an upload names the file of the rehearsal. -/
theorem fileId_of_upload {m : Mock} {file : SourceFile} {reply : UploadReply}
    (h : (answer (.upload file) m).1 = .ok reply) : reply.fileId = m.fileId := by
  cases hfailure : m.failures .upload with
  | some f =>
    rw [answer_of_failure rfl hfailure] at h
    cases h
  | none =>
    have hnone : ∀ stage ∈ (Call.upload file).stage?, m.failures stage = none := by
      intro stage hstage
      obtain rfl := Option.some.inj hstage
      exact hfailure
    rw [answer_of_no_failure hnone] at h
    exact Except.ok.inj h ▸ rfl

/-- A status is answered with the failure that is set, or else with the report if the file is
known. -/
theorem answer_status_eq (m : Mock) (fileId : String) :
    answer (.status fileId) m =
      (match m.statusFailure with
        | some f => .error f
        | none => (m.checkKnown fileId).map fun _ =>
          ⟨fileId, if m.staleStatus then .none else m.progress⟩, m) := by
  rw [answer_of_no_failure (c := .status fileId) (by simp [Call.stage?])]
  simp only [perform]
  cases m.statusFailure with
  | some f => rfl
  | none => cases m.checkKnown fileId <;> rfl

/-- No more flags are reported than there are. -/
theorem flags_le_of_answer_status {m : Mock} {fileId : String} {report : StatusReport}
    (h : (answer (.status fileId) m).1 = .ok report) : report.flags ≤ m.progress := by
  rw [answer_status_eq] at h
  cases hfailure : m.statusFailure with
  | some f => simp [hfailure] at h
  | none =>
    cases hknown : m.checkKnown fileId with
    | error f => simp [hfailure, hknown, Except.map] at h
    | ok =>
      simp only [hfailure, hknown, Except.map, Except.ok.injEq] at h
      rw [← h]
      dsimp only
      split
      · exact Flags.none_le _
      · exact Flags.le_refl _

/-- The status of the file is reported once it is uploaded, unless the status is told to fail. -/
theorem answer_status_of_uploaded {m : Mock} (hnamed : Text.allBlank m.fileId = false)
    (huploaded : m.progress.uploaded = true) :
    (answer (.status m.fileId) m).1 =
      match m.statusFailure with
      | some f => .error f
      | none => .ok ⟨m.fileId, if m.staleStatus then .none else m.progress⟩ := by
  rw [answer_status_eq, checkKnown_eq_ok hnamed huploaded]
  rfl

/-- Without a delay a call is answered at once. -/
theorem receive_of_no_delay {m : Mock} (h : m.delay = 0) (c : Call) :
    service.receive c m = (.now (answer c (m.log c)).1, (answer c (m.log c)).2) := by
  have hlog : (m.log c).delay = 0 := h
  simp only [service, if_pos hlog]

end Mock

end CsvCleaning
