import CsvCleaning.Proofs.Service.Forms
import CsvCleaning.Proofs.Service.Reports

/-!
# Replies are read back and read leniently

A reply is read back from the text of the JSON object that it is written as just where its counts have 64
bits and each of its cells is restored from its own text. A body that is read as a reply may have its
members in another order, may have members with unknown names, and may leave out just those members that
have a default.
-/

namespace CsvCleaning

open Json (Doc Fault Shape readString readFlag readCount readList readOption rereadMembers memberNamed
  nestingLimit maxWord decodeBody)
open Json.Shape (Specified)

namespace HealthReply

/-- The form of a health answer. -/
def form : ReplyForm HealthReply where
  ofDoc := ofDoc
  toJson := toJson
  specs := [⟨"message", none⟩]
  admits _ := True
  members r members := members = r.members
  counts _ := []
  cells _ := []
  levels := 1

/-- The members of a health answer. -/
theorem specified_shape : shape.Specified form.specs :=
  (Specified.pure HealthReply.mk).required "message" readString (by simp)

/-- Health answers have a shape. -/
theorem ofShape : form.OfShape shape "HealthResponse" where
  specified := specified_shape
  bare := by simp [form]
  named h := by
    obtain rfl := h
    rfl
  toJson_eq r := ⟨_, rfl, rfl⟩
  proper {r members} h _ := by
    obtain rfl := h
    exact List.forall_mem_singleton.mpr (.text r.message)
  yields _ _ _ _ := List.forall_mem_nil _
  build_iff {r members depth} h _ _ := by
    obtain rfl := h
    cases r
    simp [ReplyForm.IsRestored, form, shape, members, Shape.build_required]

end HealthReply

namespace UploadReply

/-- The form of an upload answer. -/
def form : ReplyForm UploadReply where
  ofDoc := ofDoc
  toJson := toJson
  specs := [⟨"filename", none⟩, ⟨"status", some (.bool false)⟩, ⟨"message", some (.text "")⟩,
    ⟨"file_id", none⟩]
  admits _ := True
  members r members := members = r.members
  counts _ := []
  cells _ := []
  levels := 1

/-- The members of an upload answer. -/
theorem specified_shape : shape.Specified form.specs :=
  (Specified.pure UploadReply.mk).required "filename" readString (by simp)
    |>.withDefault "status" rfl (by simp)
    |>.withDefault "message" rfl (by simp)
    |>.required "file_id" readString (by simp)

/-- Upload answers have a shape. -/
theorem ofShape : form.OfShape shape "UploadResponse" where
  specified := specified_shape
  bare := by simp [form, Json.isBare]
  named h := by
    obtain rfl := h
    rfl
  toJson_eq r := ⟨_, rfl, rfl⟩
  proper {r members} h _ := by
    obtain rfl := h
    simp [members, Json.HasProperNumbers.text, Json.HasProperNumbers.bool]
  yields _ _ _ _ := List.forall_mem_nil _
  build_iff {r members depth} h _ _ := by
    obtain rfl := h
    cases r
    simp [ReplyForm.IsRestored, form, shape, members, Shape.build_required, Shape.build_withDefault]

end UploadReply

namespace DataSummary

/-- The form of a profile. -/
def form : ReplyForm DataSummary where
  ofDoc := ofDoc
  toJson := toJson
  specs := [⟨"filename", none⟩, ⟨"rows_count", none⟩, ⟨"columns_count", none⟩, ⟨"columns", none⟩,
    ⟨"data_types", some (.object [])⟩, ⟨"missing_values", some (.object [])⟩,
    ⟨"sample_rows", some (.array [])⟩, ⟨"duplicate_rows", some (.count 0)⟩,
    ⟨"memory_usage", some (.text "")⟩]
  admits _ := True
  members r members := members = r.members
  counts r := r.rowsCount :: r.columnsCount :: r.duplicateRows :: r.missingValues.values
  cells r := r.sampleRows.flatMap (·.values)
  levels := 3

/-- The members of a profile. -/
theorem specified_shape : shape.Specified form.specs :=
  (Specified.pure DataSummary.mk).required "filename" readString (by simp)
    |>.required "rows_count" readCount (by simp)
    |>.required "columns_count" readCount (by simp)
    |>.required "columns" (readList readString) (by simp)
    |>.withDefault "data_types" rfl (by simp)
    |>.withDefault "missing_values" rfl (by simp)
    |>.withDefault "sample_rows" rfl (by simp)
    |>.withDefault "duplicate_rows" rfl (by simp)
    |>.withDefault "memory_usage" rfl (by simp)

/-- A profile is built from what is read of its members just where it is restored. -/
theorem build_iff {r : DataSummary} (hcells : form.HasProperCells r) {depth : Nat}
    (hdepth : depth + 3 < nestingLimit) :
    shape.build (memberNamed (rereadMembers (depth + 1) r.members)) = .ok r ↔ form.IsRestored depth r := by
  have hlists : depth + 1 + 1 < nestingLimit := lt_of_le_of_lt (Nat.le_succ _) hdepth
  have hbuild : shape.build (memberNamed (rereadMembers (depth + 1) r.members)) = .ok r ↔
      r.duplicateRows ≤ maxWord ∧
        readList Row.ofDoc (Doc.reread (depth + 1) (.array (r.sampleRows.map Row.toJson))) = .ok r.sampleRows ∧
        (∀ n ∈ r.missingValues.values, n ≤ maxWord) ∧ r.columnsCount ≤ maxWord ∧
        r.rowsCount ≤ maxWord := by
    cases r
    simp [shape, members, Shape.build_required, Shape.build_withDefault, readTexts_reread, readTextMap_reread,
      readCountMap_reread_iff, hlists]
  simp only [hbuild, readRows_reread_iff hcells hdepth, ReplyForm.IsRestored, form, List.forall_mem_cons]
  constructor
  · intro h
    obtain ⟨hduplicates, hrestored, hmissing, hcolumnsCount, hrowsCount⟩ := h
    exact ⟨⟨hrowsCount, hcolumnsCount, hduplicates, hmissing⟩, hrestored⟩
  · intro h
    obtain ⟨⟨hrowsCount, hcolumnsCount, hduplicates, hmissing⟩, hrestored⟩ := h
    exact ⟨hduplicates, hrestored, hmissing, hcolumnsCount, hrowsCount⟩

/-- A profile is read with proper cells. -/
theorem yields_shape : shape.Yields form.HasProperCells := by
  have hrows : (Shape.withDefault "sample_rows" (readList Row.ofDoc) []).Yields _ :=
    .withDefault yields_rows (List.forall_mem_nil _)
  refine .and (.and (.and (.and (.and (.and (.and (.and (.and (.pure ?_) .anything) .anything)
    .anything) .anything) .anything) .anything) hrows) .anything) .anything
  intro _ _ _ _ _ _ _ _ _ _ _ _ rows hrows _ _ _ _
  exact hrows

/-- Profiles have a shape. -/
theorem ofShape : form.OfShape shape "DataSummary" where
  specified := specified_shape
  bare := by simp [form, Json.isBare, Json.count]
  named h := by
    obtain rfl := h
    rfl
  toJson_eq r := ⟨_, rfl, rfl⟩
  proper h hcells := by
    obtain rfl := h
    simp only [members, List.forall_mem_cons, hasProperNumbers_count, hasProperNumbers_texts,
      hasProperNumbers_rows hcells, Json.HasProperNumbers.text, true_and]
    refine ⟨.object ?_, .object ?_, List.forall_mem_nil _⟩
    · exact List.forall_mem_map.mpr fun e _ => .text e.2
    · exact List.forall_mem_map.mpr fun e _ => hasProperNumbers_count e.2
  yields := yields_shape
  build_iff h hcells hdepth := by
    obtain rfl := h
    exact build_iff hcells hdepth

end DataSummary

namespace ProcessReply

/-- The form of a processing answer. -/
def form : ReplyForm ProcessReply where
  ofDoc := ofDoc
  toJson := toJson
  specs := [⟨"file_id", none⟩, ⟨"message", none⟩, ⟨"script", some .null⟩, ⟨"data_summary", some .null⟩]
  admits _ := True
  members r members := ∃ summary, DataSummary.form.WritesOption r.dataSummary summary ∧
    members = r.members summary
  counts r := r.dataSummary.toList.flatMap DataSummary.form.counts
  cells r := r.dataSummary.toList.flatMap DataSummary.form.cells
  levels := 4

/-- The members of a processing answer. -/
theorem specified_shape : shape.Specified form.specs :=
  (Specified.pure ProcessReply.mk).required "file_id" readString (by simp)
    |>.required "message" readString (by simp)
    |>.withDefault "script" rfl (by simp)
    |>.withDefault "data_summary" rfl (by simp)

/-- The cells of a processing answer are those of its profile. -/
theorem hasProperCells_iff {r : ProcessReply} :
    form.HasProperCells r ↔ ∀ a ∈ r.dataSummary, DataSummary.form.HasProperCells a := by
  cases h : r.dataSummary <;> simp [ReplyForm.HasProperCells, form, h]

/-- So it is restored if its profile is. -/
theorem isRestored_iff {depth : Nat} {r : ProcessReply} :
    form.IsRestored depth r ↔ ∀ a ∈ r.dataSummary, DataSummary.form.IsRestored (depth + 1) a := by
  have hlevels : depth + form.levels = depth + 1 + DataSummary.form.levels := Nat.add_right_comm depth 3 1
  rw [ReplyForm.IsRestored, hlevels]
  cases h : r.dataSummary <;> simp [ReplyForm.IsRestored, form, h]

/-- A processing answer is read with proper cells. -/
theorem yields_shape : shape.Yields form.HasProperCells := by
  have hsummary : (Shape.withDefault "data_summary" (readOption DataSummary.ofDoc) none).Yields
      fun o => ∀ a ∈ o, DataSummary.form.HasProperCells a :=
    .withDefault (DataSummary.yields_shape.of_read "DataSummary").readOption (by simp)
  refine .and (.and (.and (.and (.pure ?_) .anything) .anything) .anything) hsummary
  intro _ _ _ _ _ _ summary hsummary
  exact hasProperCells_iff.mpr hsummary

/-- Processing answers have a shape. -/
theorem ofShape : form.OfShape shape "ProcessResponse" where
  specified := specified_shape
  bare := by simp [form, Json.isBare]
  named h := by
    obtain ⟨summary, -, rfl⟩ := h
    rfl
  toJson_eq r := by
    refine ⟨_, ⟨.ofOption DataSummary.toJson r.dataSummary, ?_, rfl⟩, rfl⟩
    cases r.dataSummary with
    | none => rfl
    | some a => exact DataSummary.ofShape.faithful.written a
  proper {r members} h hcells := by
    obtain ⟨summary, hsummary, rfl⟩ := h
    have hproper := DataSummary.ofShape.hasProperNumbers_of_option hsummary (hasProperCells_iff.mp hcells)
    have hscript : (Json.ofOption .text r.script).HasProperNumbers := by
      cases r.script with
      | none => exact .null
      | some s => exact .text s
    simp [members, Json.HasProperNumbers.text, hscript, hproper]
  yields := yields_shape
  build_iff {r members depth} h hcells hdepth := by
    obtain ⟨summary, hsummary, rfl⟩ := h
    have hdeeper : depth + 1 + DataSummary.form.levels < nestingLimit :=
      lt_of_eq_of_lt (Nat.add_right_comm depth 1 3) hdepth
    have hread : readOption DataSummary.ofDoc (Doc.reread (depth + 1) summary) = .ok r.dataSummary ↔ _ :=
      DataSummary.ofShape.readOption_reread_iff hsummary (hasProperCells_iff.mp hcells) hdeeper
    rw [isRestored_iff, ← hread]
    cases r
    simp [shape, ProcessReply.members, Shape.build_required, Shape.build_withDefault, readOptionText_reread]

end ProcessReply

namespace ExecuteReply

/-- The form of an execution answer. -/
def form : ReplyForm ExecuteReply where
  ofDoc := ofDoc
  toJson := toJson
  specs := [⟨"message", none⟩, ⟨"processed_rows", none⟩]
  admits _ := True
  members r members := members = r.members
  counts r := [r.processedRows]
  cells _ := []
  levels := 1

/-- The members of an execution answer. -/
theorem specified_shape : shape.Specified form.specs :=
  (Specified.pure ExecuteReply.mk).required "message" readString (by simp)
    |>.required "processed_rows" readCount (by simp)

/-- Execution answers have a shape. -/
theorem ofShape : form.OfShape shape "ExecuteResponse" where
  specified := specified_shape
  bare := by simp [form]
  named h := by
    obtain rfl := h
    rfl
  toJson_eq r := ⟨_, rfl, rfl⟩
  proper {r members} h _ := by
    obtain rfl := h
    simp [members, Json.HasProperNumbers.text, hasProperNumbers_count]
  yields _ _ _ _ := List.forall_mem_nil _
  build_iff {r members depth} h _ _ := by
    obtain rfl := h
    cases r
    simp [ReplyForm.IsRestored, form, shape, members, Shape.build_required]

end ExecuteReply

namespace ResultReply

/-- The form of a result. -/
def form : ReplyForm ResultReply where
  ofDoc := ofDoc
  toJson := toJson
  specs := [⟨"file_id", none⟩, ⟨"message", some (.text "")⟩, ⟨"data", none⟩, ⟨"columns", none⟩,
    ⟨"rows_count", none⟩]
  admits _ := True
  members r members := members = r.members
  counts r := [r.rowsCount]
  cells r := r.data.flatMap (·.values)
  levels := 3

/-- The members of a result. -/
theorem specified_shape : shape.Specified form.specs :=
  (Specified.pure ResultReply.mk).required "file_id" readString (by simp)
    |>.withDefault "message" rfl (by simp)
    |>.required "data" (readList Row.ofDoc) (by simp)
    |>.required "columns" (readList readString) (by simp)
    |>.required "rows_count" readCount (by simp)

/-- A result is read with proper cells. -/
theorem yields_shape : shape.Yields form.HasProperCells := by
  refine .and (.and (.and (.and (.and (.pure ?_) .anything) .anything) (.required yields_rows))
    .anything) .anything
  intro _ _ _ _ rows hrows _ _ _ _
  exact hrows

/-- Results have a shape. -/
theorem ofShape : form.OfShape shape "ResultResponse" where
  specified := specified_shape
  bare := by simp [form, Json.isBare]
  named h := by
    obtain rfl := h
    rfl
  toJson_eq r := ⟨_, rfl, rfl⟩
  proper h hcells := by
    obtain rfl := h
    simp [members, Json.HasProperNumbers.text, hasProperNumbers_rows hcells, hasProperNumbers_texts,
      hasProperNumbers_count]
  yields := yields_shape
  build_iff {r members depth} h hcells hdepth := by
    obtain rfl := h
    have hlists : depth + 1 + 1 < nestingLimit := lt_of_le_of_lt (Nat.le_succ _) hdepth
    have hbuild : shape.build (memberNamed (rereadMembers (depth + 1) r.members)) = .ok r ↔
        r.rowsCount ≤ maxWord ∧
          readList Row.ofDoc (Doc.reread (depth + 1) (.array (r.data.map Row.toJson))) = .ok r.data := by
      cases r
      simp [shape, members, Shape.build_required, Shape.build_withDefault, readTexts_reread, hlists]
    simp only [hbuild, readRows_reread_iff hcells hdepth, ReplyForm.IsRestored, form,
      List.forall_mem_singleton]

end ResultReply

namespace ErrorEnvelope

/-- The form of an error answer. -/
def form : ReplyForm ErrorEnvelope where
  ofDoc := ofDoc
  toJson := toJson
  specs := [⟨"detail", none⟩]
  admits _ := True
  members r members := members = r.members
  counts _ := []
  cells _ := []
  levels := 1

/-- The members of an error answer. -/
theorem specified_shape : shape.Specified form.specs :=
  (Specified.pure ErrorEnvelope.mk).required "detail" readString (by simp)

/-- Error answers have a shape. -/
theorem ofShape : form.OfShape shape "ErrorEnvelope" where
  specified := specified_shape
  bare := by simp [form]
  named h := by
    obtain rfl := h
    rfl
  toJson_eq r := ⟨_, rfl, rfl⟩
  proper {r members} h _ := by
    obtain rfl := h
    exact List.forall_mem_singleton.mpr (.text r.detail)
  yields _ _ _ _ := List.forall_mem_nil _
  build_iff {r members depth} h _ _ := by
    obtain rfl := h
    cases r
    simp [ReplyForm.IsRestored, form, shape, members, Shape.build_required]

end ErrorEnvelope

namespace StatusReport

/-- The form of a status report. Its unknown members are read and kept while it is not known which of them
belong to the flags, so they have to be sound. -/
def form : ReplyForm StatusReport where
  ofDoc := ofDoc
  toJson := toJson
  specs := specs
  admits := Doc.IsSound
  members r members := members = r.members
  counts _ := []
  cells _ := []
  levels := 1

/-- Status reports are faithful. -/
theorem faithful : form.Faithful where
  toLenientBodies := by
    refine lenient_ofDoc.bodies (fun d _ => Iff.rfl) fun spec hspec v hv => ?_
    rw [default_of_mem_specs hspec] at hv
    cases hv
  named h := by
    obtain rfl := h
    rfl
  written r := by
    have hnodup : (r.members.map (·.1)).Nodup := by simp [members, Flags.members]
    exact ⟨_, _, rfl, SortedMap.entries_ofList_perm hnodup, rfl⟩
  read_back {r v} hv := by
    obtain ⟨_, members', rfl, hperm, rfl⟩ := hv
    have hproper : (Json.object members').HasProperNumbers := by
      have hmembers : ∀ e ∈ r.members, e.2.HasProperNumbers := by
        simp [members, Flags.members, Json.HasProperNumbers.text, Json.HasProperNumbers.bool]
      exact .object fun e he => hmembers e (hperm.mem_iff.mp he)
    have hread : ofDoc (.object false (rereadMembers 1 r.members) none) = .ok r := rfl
    have hreordered : (rereadMembers 1 r.members).Perm (rereadMembers 1 members') := by
      rw [Json.rereadMembers_eq_map, Json.rereadMembers_eq_map]
      exact hperm.symm.map _
    rw [Json.decodeBody_print hproper]
    exact iff_of_true (lenient_ofDoc.reorder hreordered hread) ⟨List.forall_mem_nil _, List.forall_mem_nil _⟩

end StatusReport

/-- Every reply is read back from the text of the object that it is written as just where it is restored. Of
a body that is read as a reply the members may stand in another order and members with unknown names may be
added, with any values but in a report, and the reply stays the same; to leave out a member that has a
default is to give that default; without any other of its members the reply is not read. -/
theorem replies_faithful :
    HealthReply.form.Faithful ∧ UploadReply.form.Faithful ∧ DataSummary.form.Faithful ∧
      ProcessReply.form.Faithful ∧ ExecuteReply.form.Faithful ∧ ResultReply.form.Faithful ∧
      StatusReport.form.Faithful ∧ ErrorEnvelope.form.Faithful :=
  ⟨HealthReply.ofShape.faithful, UploadReply.ofShape.faithful, DataSummary.ofShape.faithful,
    ProcessReply.ofShape.faithful, ExecuteReply.ofShape.faithful, ResultReply.ofShape.faithful,
    StatusReport.faithful, ErrorEnvelope.ofShape.faithful⟩

/-- A result of one row with one cell. -/
def ResultReply.ofCell (v : Json) : ResultReply :=
  ⟨"a1", "", [SortedMap.empty.insert "x" v], ["x"], 1⟩

/-- Null in some arrays. -/
def Json.nestedNull : Nat → Json
  | 0 => .null
  | levels + 1 => .array [nestedNull levels]

/-- There are no numbers in it. -/
theorem Json.hasProperNumbers_nestedNull (levels : Nat) : (nestedNull levels).HasProperNumbers := by
  induction levels with
  | zero => exact .null
  | succ levels ih => exact .array (List.forall_mem_singleton.mpr ih)

/-- The text of a report with one more member. -/
def StatusReport.textWith (member : String) : String :=
  "\x7b\"file_id\":\"a1\",\"uploaded\":true,\"processed_by_llm\":true,\"script_executed\":true," ++
    "\"ready\":true," ++ member ++ "\x7d"

/-- Not every reply is read back: a third of 271 comes back as the number below it, and a cell that is nested
125 deep makes the result as deep as the limit. Nor may any unknown member be added to a report: its value
has to be in range. -/
theorem replies_changed_or_refused :
    decodeBody ResultReply.ofDoc
        (Bytes.utf8 (ResultReply.ofCell (.number (.real ⟨false, 6356643224048981, -46⟩))).toJson.print) =
      .ok (ResultReply.ofCell (.number (.real ⟨false, 6356643224048980, -46⟩))) ∧
    decodeBody ResultReply.ofDoc (Bytes.utf8 (ResultReply.ofCell (Json.nestedNull 125)).toJson.print) =
      .error .nestedTooDeep ∧
    decodeBody StatusReport.ofDoc (Bytes.utf8 (StatusReport.textWith "\"load\":1e99")) =
      .ok ⟨"a1", ⟨true, true, true, true⟩⟩ ∧
    decodeBody StatusReport.ofDoc (Bytes.utf8 (StatusReport.textWith "\"load\":1e999")) =
      .error .numberOutOfRange := by
  refine ⟨by decide +kernel, ?_, by decide +kernel, by decide +kernel⟩
  have hcells : ResultReply.form.HasProperCells (ResultReply.ofCell (Json.nestedNull 125)) :=
    List.forall_mem_singleton.mpr (Json.hasProperNumbers_nestedNull 125)
  have hwritten := ResultReply.ofShape.faithful.written (ResultReply.ofCell (Json.nestedNull 125))
  have hproper : (ResultReply.ofCell (Json.nestedNull 125)).toJson.HasProperNumbers :=
    ResultReply.ofShape.hasProperNumbers hwritten hcells
  rw [Json.decodeBody_print hproper]
  decide +kernel

/-- An upload answer with an unknown member and without its defaults. -/
example : decodeBody UploadReply.ofDoc
    (Bytes.utf8 "\x7b\"version\":2,\"file_id\":\"a1\",\"filename\":\"sales.csv\"\x7d") =
      .ok ⟨"sales.csv", false, "", "a1"⟩ := by
  decide +kernel

end CsvCleaning
