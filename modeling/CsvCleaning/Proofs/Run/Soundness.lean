import CsvCleaning.Proofs.Run.Moves

/-!
# Sound runs

How many stages of a run are complete can be read off its phase, and a run is sound if everything
it holds fits this number: the record with its flags, row count and error message, the file, and
the result. Every move keeps a run sound, so every reachable run is.

In a sound run the local steps that note an answer down cannot fail. `conclude_cases` says all that
an answer can do: it fails the stage, or it is accepted and the run advances.
-/

namespace CsvCleaning

/-- How many stages are complete. -/
def Phase.completed : Phase → Nat
  | .idle | .uploading => 0
  | .uploaded | .processing => 1
  | .processed | .executing => 2
  | .executed | .fetchingResult => 3
  | .ready => 4
  | .failed stage _ => stage.index

/-- Before a stage, all stages before it are complete. -/
@[simp] theorem Stage.completed_resumePhase (stage : Stage) :
    stage.resumePhase.completed = stage.index := by
  cases stage <;> rfl

/-- During a stage, all stages before it are complete. -/
@[simp] theorem Stage.completed_busyPhase (stage : Stage) :
    stage.busyPhase.completed = stage.index := by
  cases stage <;> rfl

/-- After a stage, it is complete too. -/
@[simp] theorem Stage.completed_donePhase (stage : Stage) :
    stage.donePhase.completed = stage.index + 1 := by
  cases stage <;> rfl

/-- Before a stage, the run is not ready. -/
theorem Stage.resumePhase_ne_ready (stage : Stage) : stage.resumePhase ≠ .ready := by
  cases stage <;> simp [Stage.resumePhase]

/-- During a stage, the run is neither idle nor ready. -/
theorem Stage.busyPhase_ne (stage : Stage) :
    stage.busyPhase ≠ .idle ∧ stage.busyPhase ≠ .ready := by
  cases stage <;> simp [Stage.busyPhase]

/-- Before a stage there is no message. -/
@[simp] theorem Stage.errorMessage?_resumePhase (stage : Stage) :
    stage.resumePhase.errorMessage? = none := by
  cases stage <;> rfl

/-- During a stage there is no message. -/
@[simp] theorem Stage.errorMessage?_busyPhase (stage : Stage) :
    stage.busyPhase.errorMessage? = none := by
  cases stage <;> rfl

/-- The flags of the first `n` stages. -/
def Flags.upTo (n : Nat) : Flags :=
  ⟨decide (0 < n), decide (1 < n), decide (2 < n), decide (3 < n)⟩

/-- Flags cover the first `n` stages if each of these has its flag. -/
theorem Flags.upTo_le_iff {n : Nat} {f : Flags} :
    Flags.upTo n ≤ f ↔ (0 < n → f.uploaded = true) ∧ (1 < n → f.processed = true) ∧
      (2 < n → f.executed = true) ∧ (3 < n → f.ready = true) := by
  change (_ ∧ _ ∧ _ ∧ _) ↔ _
  simp [Flags.upTo]

namespace Run

/-- Everything that a run holds fits the number of its complete stages. -/
structure Sound (r : Run) : Prop where
  record : r.record.isSome ↔ 0 < r.phase.completed
  flags : ∀ a ∈ r.record, Flags.upTo r.phase.completed ≤ a.flags
  rows : ∀ a ∈ r.record, 3 ≤ r.phase.completed → a.processedRowCount.isSome
  error : ∀ a ∈ r.record, a.lastError = r.phase.errorMessage?
  file : r.phase ≠ .idle → r.phase ≠ .ready → r.file.isSome
  noFile : r.phase = .ready → r.file = none
  result : r.result.isSome ↔ r.phase = .ready
  resultId : ∀ table ∈ r.result, ∀ a ∈ r.record, table.fileId = a.fileId

/-- What an accepted reply does to a run. -/
inductive Advance (r : Run) : Stage → (c : Call) → c.Reply → Run → Prop where
  | upload (file : SourceFile) (reply : UploadReply) (hid : Text.allBlank reply.fileId = false) :
      Advance r .upload (.upload file) reply
        { r with
          record := some
            { run := r.id, fileId := reply.fileId, filename := file.name
              flags := { Flags.none with uploaded := true }
              processedRowCount := none, lastError := none
              script := none, dataSummary := none, revision := 0 }
          phase := .uploaded }
  | process (fileId : String) (reply : ProcessReply) (a : Record) (hid : reply.fileId = fileId)
      (ha : r.record = some a) :
      Advance r .process (.process fileId) reply
        { r with
          record := some
            { a with
              flags := { a.flags with processed := true }
              script := reply.script.or a.script
              dataSummary := reply.dataSummary.or a.dataSummary }.touch
          phase := .processed }
  | execute (fileId : String) (reply : ExecuteReply) (a : Record) (ha : r.record = some a) :
      Advance r .execute (.execute fileId) reply
        { r with
          record := some
            { a with
              flags := { a.flags with executed := true }
              processedRowCount := some reply.processedRows }.touch
          phase := .executed }
  | result (fileId : String) (table : ResultTable) (a : Record) (hid : table.fileId = fileId)
      (ha : r.record = some a) :
      Advance r .result (.result fileId) table
        { r with
          record := some { a with flags := { a.flags with ready := true } }.touch
          result := some table
          phase := .ready
          file := none }

/-- An accepted reply completes the stage. -/
theorem Advance.phase {r r' : Run} {stage : Stage} {c : Call} {reply : c.Reply}
    (h : Advance r stage c reply r') : r'.phase = stage.donePhase := by
  cases h <;> rfl

/-- An accepted reply leaves the numbers and the refreshes of a run alone. -/
theorem Advance.refreshes {r r' : Run} {stage : Stage} {c : Call} {reply : c.Reply}
    (h : Advance r stage c reply r') :
    r'.id = r.id ∧ r'.ordered = r.ordered ∧ r'.refreshing = r.refreshing ∧
      r'.pending = r.pending := by
  cases h <;> exact ⟨rfl, rfl, rfl, rfl⟩

/-- A refused reply is an error, whatever the run. -/
theorem accept_of_refusal?_eq_some (r : Run) {c : Call} {reply : c.Reply} {e : Failure}
    (h : c.refusal? reply = some e) : r.accept c reply = .error e := by
  cases c with
  | upload file =>
    obtain ⟨hid, he⟩ := Option.ite_none_right_eq_some.mp h
    obtain rfl := Option.some.inj he
    simp [accept, Record.uploaded, hid, bind, Except.bind]
  | process fileId | result fileId =>
    obtain ⟨hid, he⟩ := Option.ite_none_right_eq_some.mp h
    obtain rfl := Option.some.inj he
    simp only [accept, if_pos hid]
    rfl
  | _ => cases h

namespace Sound

variable {r r' : Run}

/-- A sound run has the flag of each complete stage. -/
theorem flag_of_lt (h : r.Sound) {a : Record} (ha : r.record = some a) :
    (0 < r.phase.completed → a.flags.uploaded = true) ∧
      (1 < r.phase.completed → a.flags.processed = true) ∧
      (2 < r.phase.completed → a.flags.executed = true) ∧
      (3 < r.phase.completed → a.flags.ready = true) :=
  Flags.upTo_le_iff.mp (h.flags a ha)

/-- A sound run with a complete stage has a record. -/
theorem exists_record (h : r.Sound) (hn : 0 < r.phase.completed) : ∃ a, r.record = some a :=
  Option.isSome_iff_exists.mp (h.record.mpr hn)

/-- A sound run without a complete stage has no record. -/
theorem record_eq_none (h : r.Sound) (hn : r.phase.completed = 0) : r.record = none := by
  have hrecord : ¬ r.record.isSome := fun hsome => by
    have := h.record.mp hsome
    omega
  simpa using hrecord

/-- A sound run that is not ready has no result. -/
theorem result_eq_none (h : r.Sound) (hphase : r.phase ≠ .ready) : r.result = none := by
  have hresult : ¬ r.result.isSome := fun hsome => hphase (h.result.mp hsome)
  simpa using hresult

/-- In a sound run a reply that no check refuses is accepted. -/
theorem accept_of_refusal?_eq_none (h : r.Sound) {stage : Stage} {c : Call}
    (hphase : r.phase = stage.busyPhase) (hc : r.request? stage = some c) {reply : c.Reply}
    (hreply : c.refusal? reply = none) :
    ∃ r', r.accept c reply = .ok r' ∧ Advance r stage c reply r' := by
  have hn : r.phase.completed = stage.index := by rw [hphase, Stage.completed_busyPhase]
  cases stage with
  | upload =>
    obtain ⟨file, -, rfl⟩ := Option.map_eq_some_iff.mp hc
    have hid : Text.allBlank reply.fileId = false := by simpa [Call.refusal?] using hreply
    refine ⟨_, ?_, .upload file reply hid⟩
    simp [accept, Record.uploaded, hid, bind, Except.bind, pure, Except.pure]
  | process =>
    obtain rfl := Option.some.inj hc
    have hid : reply.fileId = r.fileId := by simpa [Call.refusal?] using hreply
    obtain ⟨a, ha⟩ := h.exists_record (by rw [hn]; decide)
    have hflag := (h.flag_of_lt ha).1 (by rw [hn]; decide)
    refine ⟨_, ?_, .process r.fileId reply a hid ha⟩
    simp [accept, activeRecord, ha, hid, Record.markProcessed, hflag, bind, Except.bind, pure,
      Except.pure]
  | execute =>
    obtain rfl := Option.some.inj hc
    obtain ⟨a, ha⟩ := h.exists_record (by rw [hn]; decide)
    have hflag := (h.flag_of_lt ha).2.1 (by rw [hn]; decide)
    refine ⟨_, ?_, .execute r.fileId reply a ha⟩
    simp [accept, activeRecord, ha, Record.markExecuted, hflag, bind, Except.bind, pure, Except.pure]
  | result =>
    obtain rfl := Option.some.inj hc
    have hid : reply.fileId = r.fileId := by simpa [Call.refusal?] using hreply
    obtain ⟨a, ha⟩ := h.exists_record (by rw [hn]; decide)
    have hflag := (h.flag_of_lt ha).2.2.1 (by rw [hn]; decide)
    refine ⟨_, ?_, .result r.fileId reply a hid ha⟩
    simp [accept, activeRecord, ha, hid, Record.markReady, hflag, bind, Except.bind, pure,
      Except.pure]

/-- In a sound run an answer fails the stage with the failure of the call, or it is accepted. -/
theorem conclude_cases (h : r.Sound) {stage : Stage} {c : Call}
    (hphase : r.phase = stage.busyPhase) (hc : r.request? stage = some c) (answer : Answer c) :
    (∃ e, (Flight.mk r c (some answer)).failure? = some e ∧
        r.conclude stage c answer = r.fail stage e) ∨
      ∃ reply, answer = .ok reply ∧ c.refusal? reply = none ∧
        Advance r stage c reply (r.conclude stage c answer) := by
  cases answer with
  | error e => exact .inl ⟨e, rfl, rfl⟩
  | ok reply =>
    cases hreply : c.refusal? reply with
    | some e =>
      have haccept := accept_of_refusal?_eq_some r hreply
      exact .inl ⟨e, hreply, by simp only [conclude, bind, Except.bind, haccept]⟩
    | none =>
      obtain ⟨r', haccept, hadvance⟩ := h.accept_of_refusal?_eq_none hphase hc hreply
      have hconclude : r.conclude stage c (.ok reply) = r' := by
        simp only [conclude, bind, Except.bind, haccept]
      exact .inr ⟨reply, rfl, hreply, hconclude ▸ hadvance⟩

/-- An idle run without record and result is sound. -/
theorem of_idle (hphase : r.phase = .idle) (hrecord : r.record = none) (hresult : r.result = none) :
    r.Sound := by
  constructor <;> simp [hphase, hrecord, hresult, Phase.completed]

/-- Staging a file keeps a run sound. -/
theorem stageFile (h : r.Sound) (file : SourceFile) : (r.stageFile file).1.Sound := by
  unfold Run.stageFile
  split
  · exact h
  · dsimp only
    split
    · exact of_idle rfl rfl rfl
    · rename_i hidle
      have hphase : r.phase = .idle := by
        by_contra hphase
        exact hidle (.inl hphase)
      exact of_idle hphase (h.record_eq_none (by rw [hphase]; rfl))
        (h.result_eq_none (by rw [hphase]; simp))

/-- Raising a run keeps it sound. -/
theorem raise (h : r.Sound) (hr : r.RaisedTo r') : r'.Sound where
  record := by rw [hr.isSome_record, hr.phase, h.record]
  flags := by
    intro b hb
    obtain ⟨a, ha, hab⟩ := hr.exists_of_mem hb
    rw [hr.phase]
    exact Flags.le_trans (h.flags a ha) hab.flags
  rows := by
    intro b hb
    obtain ⟨a, ha, hab⟩ := hr.exists_of_mem hb
    rw [hr.phase, hab.processedRowCount]
    exact h.rows a ha
  error := by
    intro b hb
    obtain ⟨a, ha, hab⟩ := hr.exists_of_mem hb
    rw [hr.phase, hab.lastError]
    exact h.error a ha
  file := by
    rw [hr.phase, hr.file]
    exact h.file
  noFile := by
    rw [hr.phase, hr.file]
    exact h.noFile
  result := by rw [hr.result, hr.phase, h.result]
  resultId := by
    intro table htable b hb
    obtain ⟨a, ha, hab⟩ := hr.exists_of_mem hb
    rw [hr.result] at htable
    rw [hab.fileId]
    exact h.resultId table htable a ha

/-- Resuming keeps a run sound: the stages before the failed one are still complete. -/
theorem resume (h : r.Sound) {stage : Stage} {message : String}
    (hphase : r.phase = .failed stage message) : r.resume.Sound := by
  have hn : r.phase.completed = stage.index := by rw [hphase]; rfl
  have hready := stage.resumePhase_ne_ready
  rw [resume_of_failed hphase]
  constructor
  · simp only [Option.isSome_map, Stage.completed_resumePhase, ← hn, h.record]
  · simp only [Option.mem_map, Stage.completed_resumePhase, ← hn]
    rintro _ ⟨a, ha, rfl⟩
    exact h.flags a ha
  · simp only [Option.mem_map, Stage.completed_resumePhase, ← hn]
    rintro _ ⟨a, ha, rfl⟩
    exact h.rows a ha
  · simp only [Option.mem_map, Stage.errorMessage?_resumePhase]
    rintro _ ⟨a, -, rfl⟩
    rfl
  · intro _ _
    exact h.file (by rw [hphase]; simp) (by rw [hphase]; simp)
  · exact fun heq => absurd heq hready
  · rw [h.result_eq_none (by rw [hphase]; simp)]
    simpa using hready
  · simp [h.result_eq_none (by rw [hphase]; simp)]

/-- Beginning a stage keeps a run sound. -/
theorem enter (h : r.Sound) {stage : Stage} {c : Call} (hphase : r.phase = stage.resumePhase)
    (hc : r.request? stage = some c) : (r.enter stage).Sound := by
  have hn : r.phase.completed = stage.index := by rw [hphase, Stage.completed_resumePhase]
  have hready : r.phase ≠ .ready := hphase ▸ stage.resumePhase_ne_ready
  obtain ⟨-, hbusy⟩ := stage.busyPhase_ne
  have herror : stage.busyPhase.errorMessage? = r.phase.errorMessage? := by
    rw [hphase, Stage.errorMessage?_resumePhase, Stage.errorMessage?_busyPhase]
  have hfile : r.file.isSome := by
    cases stage with
    | upload =>
      obtain ⟨file, hfile, -⟩ := Option.map_eq_some_iff.mp hc
      rw [hfile]
      rfl
    | _ => exact h.file (by rw [hphase]; simp [Stage.resumePhase]) hready
  constructor
  · simpa [Run.enter, Run.publish, hn] using h.record
  · simpa [Run.enter, Run.publish, hn] using h.flags
  · simpa [Run.enter, Run.publish, hn] using h.rows
  · simpa [Run.enter, Run.publish, herror] using h.error
  · exact fun _ _ => hfile
  · exact fun heq => absurd heq hbusy
  · simpa [Run.enter, Run.publish, h.result_eq_none hready] using hbusy
  · simp [Run.enter, Run.publish, h.result_eq_none hready]

/-- A failed stage keeps a run sound: no stage becomes complete or incomplete. -/
theorem fail (h : r.Sound) {stage : Stage} (hphase : r.phase = stage.busyPhase) (e : Failure) :
    (r.fail stage e).Sound := by
  have hn : r.phase.completed = stage.index := by rw [hphase, Stage.completed_busyPhase]
  obtain ⟨hidle, hready⟩ : r.phase ≠ .idle ∧ r.phase ≠ .ready := hphase ▸ stage.busyPhase_ne
  have hcompleted : (r.fail stage e).phase.completed = r.phase.completed := hn.symm
  constructor
  · rw [hcompleted]
    simpa [Run.fail] using h.record
  · rw [hcompleted]
    simp only [Run.fail, Option.mem_map]
    rintro _ ⟨a, ha, rfl⟩
    exact h.flags a ha
  · rw [hcompleted]
    simp only [Run.fail, Option.mem_map]
    rintro _ ⟨a, ha, rfl⟩
    exact h.rows a ha
  · simp only [Run.fail, Option.mem_map]
    rintro _ ⟨a, -, rfl⟩
    rfl
  · exact fun _ _ => h.file hidle hready
  · simp [Run.fail]
  · simp [Run.fail, h.result_eq_none hready]
  · simp [Run.fail, h.result_eq_none hready]

/-- An accepted reply keeps a run sound. -/
theorem advance (h : r.Sound) {stage : Stage} {c : Call} {reply : c.Reply}
    (hphase : r.phase = stage.busyPhase) (hc : r.request? stage = some c)
    (hadvance : Advance r stage c reply r') : r'.Sound := by
  have hn : r.phase.completed = stage.index := by rw [hphase, Stage.completed_busyPhase]
  obtain ⟨hidle, hready⟩ : r.phase ≠ .idle ∧ r.phase ≠ .ready := hphase ▸ stage.busyPhase_ne
  have hfile := h.file hidle hready
  have hresult := h.result_eq_none hready
  have hbusy : r.phase.errorMessage? = none := by rw [hphase, Stage.errorMessage?_busyPhase]
  cases hadvance with
  | upload file reply hid =>
    constructor <;>
      simp [Phase.completed, Flags.upTo_le_iff, hfile, hresult, Phase.errorMessage?]
  | process fileId reply a hid ha =>
    have huploaded := (h.flag_of_lt ha).1 (by rw [hn]; decide)
    have herror : a.lastError = none := (h.error a ha).trans hbusy
    constructor <;>
      simp [Phase.completed, Flags.upTo_le_iff, hfile, hresult, Phase.errorMessage?, Record.touch,
        huploaded, herror]
  | execute fileId reply a ha =>
    have huploaded := (h.flag_of_lt ha).1 (by rw [hn]; decide)
    have hprocessed := (h.flag_of_lt ha).2.1 (by rw [hn]; decide)
    have herror : a.lastError = none := (h.error a ha).trans hbusy
    constructor <;>
      simp [Phase.completed, Flags.upTo_le_iff, hfile, hresult, Phase.errorMessage?, Record.touch,
        huploaded, hprocessed, herror]
  | result fileId table a hid ha =>
    have huploaded := (h.flag_of_lt ha).1 (by rw [hn]; decide)
    have hprocessed := (h.flag_of_lt ha).2.1 (by rw [hn]; decide)
    have hexecuted := (h.flag_of_lt ha).2.2.1 (by rw [hn]; decide)
    have hrows := h.rows a ha (by rw [hn]; decide)
    have herror : a.lastError = none := (h.error a ha).trans hbusy
    have hfileId : fileId = a.fileId := by
      have hcall := Option.some.inj hc
      simp only [Call.result.injEq, Run.fileId, ha] at hcall
      exact hcall.symm
    constructor <;>
      simp [Phase.completed, Flags.upTo_le_iff, Phase.errorMessage?, Record.touch, huploaded,
        hprocessed, hexecuted, hrows, herror, hid, hfileId]

end Sound

/-- Every move keeps a run sound. -/
theorem Move.sound {r r' : Run} {es : List Event} (m : Move r es r') (h : r.Sound) : r'.Sound := by
  cases m with
  | stage file _ => exact h.stageFile file
  | clear => exact .of_idle rfl rfl rfl
  | resume hphase => exact h.resume hphase
  | abandon hphase hc => exact h.enter hphase hc
  | answer hphase hc answer =>
    rcases (h.enter hphase hc).conclude_cases rfl hc answer with ⟨e, -, hfail⟩ | ⟨_, -, -, hadvance⟩
    · rw [hfail]
      exact (h.enter hphase hc).fail rfl e
    · exact (h.enter hphase hc).advance rfl hc hadvance
  | refresh hr => exact h.raise hr

/-- The run that waits for the call of a move is sound. -/
theorem Move.sound_of_called {r r' : Run} {es : List Event} (m : Move r es r') (h : r.Sound)
    {f : Flight} (hf : .called f ∈ es) : f.run.Sound := by
  cases m with
  | abandon hphase hc =>
    obtain rfl := Event.called.inj (List.mem_singleton.mp hf)
    exact h.enter hphase hc
  | answer hphase hc answer =>
    obtain rfl := Event.called.inj (List.mem_singleton.mp hf)
    exact h.enter hphase hc
  | stage file _ => simp at hf
  | clear | resume | refresh => cases hf

/-- Along a path from a sound run, all runs are sound: the last one and those that wait for a
call. -/
theorem Path.sound {r r' : Run} {es : List Event} (path : Path r es r') (h : r.Sound) :
    r'.Sound ∧ ∀ f, .called f ∈ es → f.run.Sound := by
  induction path with
  | refl => exact ⟨h, by simp⟩
  | tail _ m ih =>
    obtain ⟨hsound, hcalls⟩ := ih
    refine ⟨m.sound hsound, fun f hf => ?_⟩
    rcases List.mem_append.mp hf with hf | hf
    · exact hcalls f hf
    · exact m.sound_of_called hsound hf

/-- Every reachable run is sound. -/
theorem Reachable.sound {r : Run} (h : Reachable r) : r.Sound := by
  induction h with
  | fresh refreshing => exact .of_idle rfl rfl rfl
  | perform env s op _ ih => exact ((Path.perform env _ s op).sound ih).1
  | flight env s op _ hf ih =>
    refine ((Path.perform env _ s op).sound ih).2 _ ?_
    exact List.mem_append_right _ (List.mem_map_of_mem hf)

end Run

end CsvCleaning
