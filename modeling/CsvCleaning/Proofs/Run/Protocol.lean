import CsvCleaning.Proofs.Run.Soundness

/-!
# The protocol of stage calls

The stage calls that are made under one number of a run follow a protocol: uploads first, then
processing, execution and the result; none of them before the one in front of it was accepted, and
none again once it was; and all of them about the file id that the accepted upload was answered
with. The number of a run never goes down, so the calls under one number are those between two
changes of it.

The invariant reads the calls made so far off the number of complete stages: no call is ahead of it,
and the last call of each complete stage was accepted.
-/

namespace CsvCleaning

/-- The file id that a call about an uploaded file carries. -/
def Call.subject? : Call → Option String
  | .process fileId | .execute fileId | .result fileId => some fileId
  | .health | .upload _ | .status _ | .script _ | .download _ => none

/-- The file id that an upload is answered with. -/
def Flight.assignedId? (f : Flight) : Option String :=
  match f.call, f.answer with
  | .upload _, some (.ok reply) => some reply.fileId
  | _, _ => none

namespace Run

/-- The last call of a stage. -/
def lastCall? (calls : List Flight) (stage : Stage) : Option Flight :=
  (calls.filter fun f => f.call.stage? = some stage).getLast?

/-- The protocol of the stage calls under one number of a run. -/
structure FollowsProtocol (calls : List Flight) : Prop where
  /-- The calls are uploads, then calls of processing, of execution and of the result. -/
  word : ∃ a b c d, calls.map (·.call.stage?) =
    (List.replicate a Stage.upload ++ List.replicate b Stage.process ++
      List.replicate c Stage.execute ++ List.replicate d Stage.result).map some
  /-- A stage is called only if the last call of the stage in front of it was accepted. -/
  preceded : ∀ before f after, calls = before ++ f :: after →
    ∀ previous stage : Stage, f.call.stage? = some stage → stage.index = previous.index + 1 →
      ∃ g, lastCall? before previous = some g ∧ g.Accepted
  /-- A stage is not called again once a call of it was accepted. -/
  once : ∀ before f after, calls = before ++ f :: after → f.Accepted →
    ∀ g ∈ after, g.call.stage? ≠ f.call.stage?
  /-- A call about an uploaded file carries the file id that the accepted upload was answered
  with. -/
  bound : ∀ before f after, calls = before ++ f :: after →
    ∀ fileId, f.call.subject? = some fileId →
      ∃ g ∈ before, g.Accepted ∧ g.assignedId? = some fileId

/-- The stage calls among events. -/
def callsIn (es : List Event) : List Flight :=
  es.filterMap fun
    | .called f => some f
    | .staged _ => none

/-- The stage calls under one number of a run. -/
def callsOf (n : Nat) (es : List Event) : List Flight :=
  (callsIn es).filter fun f => f.run.id = n

/-- The file that was staged last. -/
def lastStaged? (es : List Event) : Option SourceFile :=
  (es.filterMap fun
    | .staged file => some file
    | .called _ => none).getLast?

/-- A list with one more element is cut at this element or before it. -/
theorem eq_append_cons_concat {α : Type} {l before after : List α} {x y : α}
    (h : l ++ [x] = before ++ y :: after) :
    (before = l ∧ y = x ∧ after = []) ∨
      ∃ after', after = after' ++ [x] ∧ l = before ++ y :: after' := by
  rcases List.eq_nil_or_concat after with rfl | ⟨after', z, rfl⟩
  · obtain ⟨hl, hx⟩ := List.append_inj' h rfl
    exact .inl ⟨hl.symm, (List.singleton_inj.mp hx).symm, rfl⟩
  · rw [List.concat_eq_append, ← List.cons_append, ← List.append_assoc] at h
    obtain ⟨hl, hx⟩ := List.append_inj' h rfl
    obtain rfl := List.singleton_inj.mp hx
    exact .inr ⟨after', by simp, hl⟩

/-- Stages in their order are a word of the protocol. -/
theorem exists_replicate_of_pairwise {stages : List Stage}
    (h : stages.Pairwise fun a b => a.index ≤ b.index) :
    ∃ a b c d, stages = List.replicate a Stage.upload ++ List.replicate b Stage.process ++
      List.replicate c Stage.execute ++ List.replicate d Stage.result := by
  induction stages with
  | nil => exact ⟨0, 0, 0, 0, rfl⟩
  | cons stage rest ih =>
    obtain ⟨hle, hrest⟩ := List.pairwise_cons.mp h
    have hnone : ∀ earlier : Stage, earlier.index < stage.index → earlier ∉ rest := by
      intro earlier hlt hmem
      have := hle earlier hmem
      omega
    obtain ⟨a, b, c, d, rfl⟩ := ih hrest
    cases stage with
    | upload => exact ⟨a + 1, b, c, d, rfl⟩
    | process =>
      have ha : a = 0 := by simpa using hnone .upload (by decide)
      subst ha
      exact ⟨0, b + 1, c, d, rfl⟩
    | execute =>
      have ha : a = 0 := by simpa using hnone .upload (by decide)
      have hb : b = 0 := by simpa using hnone .process (by decide)
      subst ha hb
      exact ⟨0, 0, c + 1, d, rfl⟩
    | result =>
      have ha : a = 0 := by simpa using hnone .upload (by decide)
      have hb : b = 0 := by simpa using hnone .process (by decide)
      have hc : c = 0 := by simpa using hnone .execute (by decide)
      subst ha hb hc
      exact ⟨0, 0, 0, d + 1, rfl⟩

/-- What the calls so far have to do with the run: no call is ahead of the complete stages, the
accepted calls are those of complete stages, the last call of each complete stage was accepted, and
the record has the file id of an accepted upload. -/
structure Explains (calls : List Flight) (r : Run) : Prop where
  stages : ∃ stages : List Stage, calls.map (·.call.stage?) = stages.map some ∧
    stages.Pairwise (fun a b => a.index ≤ b.index) ∧
    ∀ stage ∈ stages, stage.index ≤ r.phase.completed
  accepted : ∀ f ∈ calls, f.Accepted →
    ∃ stage, f.call.stage? = some stage ∧ stage.index < r.phase.completed
  complete : ∀ stage : Stage, stage.index < r.phase.completed →
    ∃ g, lastCall? calls stage = some g ∧ g.Accepted
  assigned : ∀ a ∈ r.record, ∃ g ∈ calls, g.Accepted ∧ g.assignedId? = some a.fileId

/-- Everything that has happened so far follows the protocol, and explains the run. -/
structure Accounts (es : List Event) (r : Run) : Prop where
  explains : Explains (callsOf r.id es) r
  protocol : ∀ n, FollowsProtocol (callsOf n es)
  number : ∀ f ∈ callsIn es, f.run.id ≤ r.id
  numbers : (callsIn es).Pairwise fun f g => f.run.id ≤ g.run.id
  file : ∀ file ∈ r.file, lastStaged? es = some file
  uploads : ∀ before f after, es = before ++ .called f :: after →
    ∀ file, f.call = .upload file → lastStaged? before = some file

/-- Without calls the protocol is followed. -/
theorem FollowsProtocol.nil : FollowsProtocol [] where
  word := ⟨0, 0, 0, 0, rfl⟩
  preceded := by simp
  once := by simp
  bound := by simp

/-- One more call that explains itself follows the protocol. -/
theorem FollowsProtocol.concat {calls : List Flight} (h : FollowsProtocol calls) {g : Flight}
    (hword : ∃ stages : List Stage, (calls ++ [g]).map (·.call.stage?) = stages.map some ∧
      stages.Pairwise fun a b => a.index ≤ b.index)
    (hpreceded : ∀ previous stage : Stage, g.call.stage? = some stage →
      stage.index = previous.index + 1 → ∃ f, lastCall? calls previous = some f ∧ f.Accepted)
    (honce : ∀ f ∈ calls, f.Accepted → g.call.stage? ≠ f.call.stage?)
    (hbound : ∀ fileId, g.call.subject? = some fileId →
      ∃ f ∈ calls, f.Accepted ∧ f.assignedId? = some fileId) :
    FollowsProtocol (calls ++ [g]) where
  word := by
    obtain ⟨stages, hstages, hsorted⟩ := hword
    obtain ⟨a, b, c, d, hword⟩ := exists_replicate_of_pairwise hsorted
    exact ⟨a, b, c, d, by rw [hstages, hword]⟩
  preceded := by
    intro before f after hsplit
    rcases eq_append_cons_concat hsplit with ⟨rfl, rfl, -⟩ | ⟨after', -, hcut⟩
    · exact hpreceded
    · exact h.preceded before f after' hcut
  once := by
    intro before f after hsplit hf
    rcases eq_append_cons_concat hsplit with ⟨-, -, rfl⟩ | ⟨after', rfl, hcut⟩
    · simp
    · intro x hx
      rcases List.mem_append.mp hx with hx | hx
      · exact h.once before f after' hcut hf x hx
      · obtain rfl := List.mem_singleton.mp hx
        exact honce f (by simp [hcut]) hf
  bound := by
    intro before f after hsplit
    rcases eq_append_cons_concat hsplit with ⟨rfl, rfl, -⟩ | ⟨after', -, hcut⟩
    · exact hbound
    · exact h.bound before f after' hcut

/-- The calls of consecutive events. -/
@[simp] theorem callsIn_append (es es' : List Event) :
    callsIn (es ++ es') = callsIn es ++ callsIn es' :=
  List.filterMap_append

/-- The calls under a number, of consecutive events. -/
@[simp] theorem callsOf_append (n : Nat) (es es' : List Event) :
    callsOf n (es ++ es') = callsOf n es ++ callsOf n es' := by
  simp [callsOf]

/-- A call is made under one number only. -/
theorem callsOf_called (n : Nat) (f : Flight) :
    callsOf n [.called f] = if f.run.id = n then [f] else [] := by
  by_cases h : f.run.id = n <;> simp [callsOf, callsIn, h]

/-- Staging a file is no call. -/
@[simp] theorem callsIn_staged (file : SourceFile) : callsIn [.staged file] = [] :=
  rfl

/-- Staging a file is no call under any number. -/
@[simp] theorem callsOf_staged (n : Nat) (file : SourceFile) : callsOf n [.staged file] = [] :=
  rfl

/-- A call does not change which file was staged last. -/
@[simp] theorem lastStaged?_called (es : List Event) (f : Flight) :
    lastStaged? (es ++ [.called f]) = lastStaged? es := by
  simp [lastStaged?]

/-- The file just staged was staged last. -/
@[simp] theorem lastStaged?_staged (es : List Event) (file : SourceFile) :
    lastStaged? (es ++ [.staged file]) = some file := by
  simp [lastStaged?]

/-- The call of a stage after the upload is about the file id of the record. -/
theorem subject?_of_request? {r : Run} {stage : Stage} {c : Call} (hc : r.request? stage = some c)
    {fileId : String} (h : c.subject? = some fileId) : 0 < stage.index ∧ fileId = r.fileId := by
  cases stage with
  | upload =>
    obtain ⟨file, -, rfl⟩ := Option.map_eq_some_iff.mp hc
    cases h
  | process | execute | result =>
    obtain rfl := Option.some.inj hc
    exact ⟨by decide, (Option.some.inj h).symm⟩

/-- The last call of a stage, after one more call. -/
theorem lastCall?_concat (calls : List Flight) (f : Flight) (stage : Stage) :
    lastCall? (calls ++ [f]) stage =
      if f.call.stage? = some stage then some f else lastCall? calls stage := by
  by_cases h : f.call.stage? = some stage <;> simp [lastCall?, h]

/-- One more call, of the stage that comes next, keeps the calls in the order of the stages. -/
theorem Explains.stages_concat {calls : List Flight} {r : Run} (h : Explains calls r) {f : Flight}
    {stage : Stage} (hstage : f.call.stage? = some stage)
    (hn : r.phase.completed = stage.index) :
    ∃ stages : List Stage, (calls ++ [f]).map (·.call.stage?) = stages.map some ∧
      stages.Pairwise (fun a b => a.index ≤ b.index) ∧ ∀ a ∈ stages, a.index ≤ stage.index := by
  obtain ⟨stages, hstages, hsorted, hle⟩ := h.stages
  rw [hn] at hle
  refine ⟨stages ++ [stage], by simp [hstages, hstage], ?_, ?_⟩
  · rw [List.pairwise_append]
    refine ⟨hsorted, List.pairwise_singleton _ _, ?_⟩
    intro a ha b hb
    rw [List.mem_singleton.mp hb]
    exact hle a ha
  · intro a ha
    rcases List.mem_append.mp ha with ha | ha
    · exact hle a ha
    · exact Nat.le_of_eq (congrArg Stage.index (List.mem_singleton.mp ha))

/-- A call of the stage that comes next explains the run it leads to: the stage is complete exactly
if the call was accepted. -/
theorem Explains.concat {calls : List Flight} {r r' : Run} (h : Explains calls r) {f : Flight}
    {stage : Stage} (hstage : f.call.stage? = some stage) (hn : r.phase.completed = stage.index)
    (hn' : (¬ f.Accepted ∧ r'.phase.completed = stage.index) ∨
      (f.Accepted ∧ r'.phase.completed = stage.index + 1))
    (hassigned : ∀ a ∈ r'.record, ∃ g ∈ calls ++ [f], g.Accepted ∧ g.assignedId? = some a.fileId) :
    Explains (calls ++ [f]) r' where
  stages := by
    obtain ⟨stages, hstages, hsorted, hle⟩ := h.stages_concat hstage hn
    refine ⟨stages, hstages, hsorted, fun a ha => ?_⟩
    have := hle a ha
    rcases hn' with ⟨-, hn'⟩ | ⟨-, hn'⟩ <;> omega
  accepted := by
    intro g hg haccepted
    rcases List.mem_append.mp hg with hg | hg
    · obtain ⟨stage', hstage', hlt⟩ := h.accepted g hg haccepted
      refine ⟨stage', hstage', ?_⟩
      rcases hn' with ⟨-, hn'⟩ | ⟨-, hn'⟩ <;> omega
    · obtain rfl := List.mem_singleton.mp hg
      refine ⟨stage, hstage, ?_⟩
      rcases hn' with ⟨hrefused, -⟩ | ⟨-, hn'⟩
      · exact absurd haccepted hrefused
      · omega
  complete := by
    intro stage' hlt
    rw [lastCall?_concat, hstage]
    by_cases heq : stage = stage'
    · subst heq
      rcases hn' with ⟨-, hn'⟩ | ⟨haccepted, -⟩
      · omega
      · exact ⟨f, by simp, haccepted⟩
    · have hne : stage.index ≠ stage'.index := fun hindex => heq (Stage.index_inj.mp hindex)
      rw [if_neg (by simpa using heq)]
      apply h.complete
      rcases hn' with ⟨-, hn'⟩ | ⟨-, hn'⟩ <;> omega
  assigned := hassigned

/-- A call of the stage that comes next follows the protocol. -/
theorem Explains.followsProtocol {calls : List Flight} {r : Run} (h : Explains calls r)
    (hcalls : FollowsProtocol calls) (hsound : r.Sound) {stage : Stage} {c : Call}
    (hphase : r.phase = stage.resumePhase) (hc : r.request? stage = some c)
    (answer : Option (Answer c)) : FollowsProtocol (calls ++ [⟨r.enter stage, c, answer⟩]) := by
  have hn : r.phase.completed = stage.index := by rw [hphase, Stage.completed_resumePhase]
  have hstage : (Flight.mk (r.enter stage) c answer).call.stage? = some stage :=
    stage?_of_request? hc
  apply hcalls.concat
  · obtain ⟨stages, hstages, hsorted, -⟩ := h.stages_concat hstage hn
    exact ⟨stages, hstages, hsorted⟩
  · intro previous stage' hstage' hindex
    obtain rfl : stage = stage' := Option.some.inj (hstage.symm.trans hstage')
    exact h.complete previous (by omega)
  · intro f hf haccepted heq
    obtain ⟨stage', hstage', hlt⟩ := h.accepted f hf haccepted
    have hsame : some stage = some stage' := hstage.symm.trans (heq.trans hstage')
    obtain rfl := Option.some.inj hsame
    omega
  · intro fileId hsubject
    obtain ⟨hpos, rfl⟩ := subject?_of_request? hc hsubject
    obtain ⟨a, ha⟩ := hsound.exists_record (by omega)
    have hfileId : r.fileId = a.fileId := by simp [Run.fileId, ha]
    rw [hfileId]
    exact h.assigned a ha

/-- A run without complete stages, under a number without calls, is explained. -/
theorem Explains.of_idle {r : Run} (hphase : r.phase = .idle) (hrecord : r.record = none) :
    Explains [] r where
  stages := ⟨[], rfl, .nil, by simp⟩
  accepted := by simp
  complete := by simp [hphase, Phase.completed]
  assigned := by simp [hrecord]

/-- What explains a run explains any run with as many complete stages and the same file ids. -/
theorem Explains.congr {calls : List Flight} {r r' : Run} (h : Explains calls r)
    (hn : r'.phase.completed = r.phase.completed)
    (hrecord : ∀ b ∈ r'.record, ∃ a ∈ r.record, a.fileId = b.fileId) : Explains calls r' where
  stages := by
    rw [hn]
    exact h.stages
  accepted := by
    rw [hn]
    exact h.accepted
  complete := by
    rw [hn]
    exact h.complete
  assigned := by
    intro b hb
    obtain ⟨a, ha, hfileId⟩ := hrecord b hb
    rw [← hfileId]
    exact h.assigned a ha

namespace Accounts

variable {es : List Event} {r r' : Run}

/-- Under a higher number no call has been made. -/
theorem callsOf_eq_nil (h : Accounts es r) {n : Nat} (hn : r.id < n) : callsOf n es = [] := by
  rw [callsOf, List.filter_eq_nil_iff]
  intro f hf
  have := h.number f hf
  simp only [decide_eq_true_eq]
  omega

/-- A run that has just begun under a new number, without a file, accounts for all events. -/
theorem clear (h : Accounts es r) : Accounts es r.clear where
  explains := by
    rw [h.callsOf_eq_nil (show r.id < r.clear.id from Nat.lt_succ_self _)]
    exact .of_idle rfl rfl
  protocol := h.protocol
  number f hf := Nat.le_trans (h.number f hf) (Nat.le_succ _)
  numbers := h.numbers
  file := by simp [Run.clear, Run.publish]
  uploads := h.uploads

/-- A change that keeps number, file, complete stages and file id keeps the account. -/
theorem congr (h : Accounts es r) (hid : r'.id = r.id) (hfile : r'.file = r.file)
    (hn : r'.phase.completed = r.phase.completed)
    (hrecord : ∀ b ∈ r'.record, ∃ a ∈ r.record, a.fileId = b.fileId) : Accounts es r' where
  explains := by
    rw [hid]
    exact h.explains.congr hn hrecord
  protocol := h.protocol
  number := by
    rw [hid]
    exact h.number
  numbers := h.numbers
  file := by
    rw [hfile]
    exact h.file
  uploads := h.uploads

/-- A file that is staged at the beginning enters the account. -/
theorem hold (h : Accounts es r) (file : SourceFile) :
    Accounts (es ++ [.staged file]) { r with file := some file }.publish where
  explains := by
    rw [callsOf_append, callsOf_staged, List.append_nil]
    exact h.explains.congr rfl fun b hb => ⟨b, hb, rfl⟩
  protocol n := by
    rw [callsOf_append, callsOf_staged, List.append_nil]
    exact h.protocol n
  number := by
    rw [callsIn_append, callsIn_staged, List.append_nil]
    exact h.number
  numbers := by
    rw [callsIn_append, callsIn_staged, List.append_nil]
    exact h.numbers
  file := by simp [Run.publish]
  uploads := by
    intro before f after hsplit
    rcases eq_append_cons_concat hsplit with ⟨-, heq, -⟩ | ⟨after', -, hcut⟩
    · cases heq
    · exact h.uploads before f after' hcut

/-- Staging a file enters the account. -/
theorem stageFile (h : Accounts es r) {file : SourceFile} (hbusy : r.phase.isBusy = false) :
    Accounts (es ++ [.staged file]) (r.stageFile file).1 := by
  unfold Run.stageFile
  rw [hbusy]
  simp only [Bool.false_eq_true, if_false]
  split
  · exact h.clear.hold file
  · exact h.hold file

/-- A call of the stage that comes next enters the account. -/
theorem call (h : Accounts es r) (hsound : r.Sound) {stage : Stage} {c : Call}
    (hphase : r.phase = stage.resumePhase) (hc : r.request? stage = some c)
    (answer : Option (Answer c)) (hid : r'.id = r.id) (hfile : ∀ file ∈ r'.file, file ∈ r.file)
    (hn : (¬ (Flight.mk (r.enter stage) c answer).Accepted ∧ r'.phase.completed = stage.index) ∨
      ((Flight.mk (r.enter stage) c answer).Accepted ∧ r'.phase.completed = stage.index + 1))
    (hassigned : ∀ a ∈ r'.record, ∃ g ∈ callsOf r.id es ++ [⟨r.enter stage, c, answer⟩],
      g.Accepted ∧ g.assignedId? = some a.fileId) :
    Accounts (es ++ [.called ⟨r.enter stage, c, answer⟩]) r' where
  explains := by
    rw [hid, callsOf_append, callsOf_called, if_pos (show (r.enter stage).id = r.id from rfl)]
    exact h.explains.concat (stage?_of_request? hc)
      (by rw [hphase, Stage.completed_resumePhase]) hn hassigned
  protocol n := by
    rw [callsOf_append, callsOf_called]
    split
    · rename_i heq
      obtain rfl : r.id = n := heq
      exact h.explains.followsProtocol (h.protocol r.id) hsound hphase hc answer
    · rw [List.append_nil]
      exact h.protocol n
  number := by
    rw [hid, callsIn_append]
    intro f hf
    rcases List.mem_append.mp hf with hf | hf
    · exact h.number f hf
    · rw [List.mem_singleton.mp hf]
      exact Nat.le_refl _
  numbers := by
    rw [callsIn_append, List.pairwise_append]
    refine ⟨h.numbers, List.pairwise_singleton _ _, ?_⟩
    intro f hf g hg
    rw [List.mem_singleton.mp hg]
    exact h.number f hf
  file := by
    intro file hmem
    rw [lastStaged?_called]
    exact h.file file (hfile file hmem)
  uploads := by
    intro before f after hsplit file hupload
    rcases eq_append_cons_concat hsplit with ⟨rfl, heq, -⟩ | ⟨after', -, hcut⟩
    · obtain rfl := Event.called.inj heq
      obtain rfl : c = .upload file := hupload
      cases stage with
      | upload =>
        obtain ⟨file', hheld, heq⟩ := Option.map_eq_some_iff.mp hc
        exact h.file file (Call.upload.inj heq ▸ hheld)
      | process | execute | result => cases Option.some.inj hc
    · exact h.uploads before f after' hcut file hupload

end Accounts

/-- An advanced run has the number of the run before, and its file unless it is ready. -/
theorem Advance.frame {r r' : Run} {stage : Stage} {c : Call} {reply : c.Reply}
    (h : Advance r stage c reply r') : r'.id = r.id ∧ ∀ file ∈ r'.file, file ∈ r.file := by
  cases h with
  | result fileId table a hid ha => exact ⟨rfl, by simp⟩
  | _ => exact ⟨rfl, fun _ hfile => hfile⟩

/-- The record of an advanced run has the file id that the accepted upload was answered with, or
the one it had before. -/
theorem Advance.assigned {r r' : Run} {stage : Stage} {c : Call} {reply : c.Reply}
    (h : Advance r stage c reply r') :
    ∀ b ∈ r'.record, (Flight.mk r c (some (.ok reply))).assignedId? = some b.fileId ∨
      ∃ a ∈ r.record, a.fileId = b.fileId := by
  intro b hb
  cases h with
  | upload file reply hid =>
    obtain rfl := Option.some.inj hb
    exact .inl rfl
  | process fileId reply a hid ha | execute fileId reply a ha | result fileId table a hid ha =>
    obtain rfl := Option.some.inj hb
    exact .inr ⟨a, ha, rfl⟩

/-- Every move enters the account of a sound run. -/
theorem Move.accounts {r r' : Run} {es es' : List Event} (m : Move r es' r') (h : Accounts es r)
    (hsound : r.Sound) : Accounts (es ++ es') r' := by
  cases m with
  | stage file hbusy => exact h.stageFile hbusy
  | clear => simpa using h.clear
  | @resume stage message hphase =>
    rw [List.append_nil, resume_of_failed hphase]
    refine h.congr rfl rfl ?_ ?_
    · rw [Stage.completed_resumePhase, hphase]
      rfl
    · intro b hb
      obtain ⟨a, ha, rfl⟩ := Option.map_eq_some_iff.mp hb
      exact ⟨a, ha, rfl⟩
  | refresh hr =>
    rw [List.append_nil]
    refine h.congr hr.id hr.file (by rw [hr.phase]) ?_
    intro b hb
    obtain ⟨a, ha, hab⟩ := hr.exists_of_mem hb
    exact ⟨a, ha, hab.fileId.symm⟩
  | @abandon stage c hphase hc =>
    refine h.call hsound hphase hc none rfl (fun _ hfile => hfile) (.inl ⟨?_, ?_⟩) ?_
    · rintro ⟨reply, hreply, -⟩
      cases hreply
    · exact stage.completed_busyPhase
    · intro a ha
      obtain ⟨g, hg, haccepted⟩ := h.explains.assigned a ha
      exact ⟨g, List.mem_append_left _ hg, haccepted⟩
  | @answer stage c hphase hc answer =>
    rcases (hsound.enter hphase hc).conclude_cases rfl hc answer with
      ⟨e, hfailure, hconclude⟩ | ⟨reply, rfl, hreply, hadvance⟩
    · rw [hconclude]
      refine h.call hsound hphase hc (some answer) rfl (fun _ hfile => hfile)
        (.inl ⟨Flight.not_accepted_of_failure? hfailure, rfl⟩) ?_
      intro b hb
      obtain ⟨a, ha, rfl⟩ := Option.map_eq_some_iff.mp hb
      obtain ⟨g, hg, haccepted⟩ := h.explains.assigned a ha
      exact ⟨g, List.mem_append_left _ hg, haccepted⟩
    · have haccepted : (Flight.mk (r.enter stage) c (some (.ok reply))).Accepted :=
        ⟨reply, rfl, hreply⟩
      obtain ⟨hid, hfile⟩ := hadvance.frame
      refine h.call hsound hphase hc (some (.ok reply)) hid hfile (.inr ⟨haccepted, ?_⟩) ?_
      · rw [hadvance.phase, Stage.completed_donePhase]
      · intro b hb
        rcases hadvance.assigned b hb with hassigned | ⟨a, ha, hfileId⟩
        · exact ⟨_, List.mem_append_right _ (List.mem_singleton_self _), haccepted, hassigned⟩
        · obtain ⟨g, hg, hacc, hassigned⟩ := h.explains.assigned a ha
          exact ⟨g, List.mem_append_left _ hg, hacc, hfileId ▸ hassigned⟩

/-- A run that has not begun accounts for no events. -/
theorem Accounts.fresh (refreshing : Bool) : Accounts [] (Run.fresh refreshing) where
  explains := .of_idle rfl rfl
  protocol _ := .nil
  number := by simp [callsIn]
  numbers := .nil
  file := by simp [Run.fresh]
  uploads := by simp

/-- Along a path, all events enter the account. -/
theorem Path.accounts {r r' : Run} {es es' : List Event} (path : Path r es' r')
    (h : Accounts es r) (hsound : r.Sound) : Accounts (es ++ es') r' := by
  induction path with
  | refl => simpa using h
  | tail path m ih =>
    rw [← List.append_assoc]
    exact m.accounts ih (path.sound hsound).1

/-- Whatever the user does and the service answers, the stage calls under each number of the run
follow the protocol, the numbers never go down, and every upload is of the file that was staged
last. -/
theorem calls_followProtocol {σ : Type} (env : Surroundings σ) (refreshing : Bool) (s : σ)
    (ops : List Operation) :
    (∀ n, FollowsProtocol (callsOf n ((history env ops (fresh refreshing) s).flatMap (·.events)))) ∧
      (callsIn ((history env ops (fresh refreshing) s).flatMap (·.events))).Pairwise
        (fun f g => f.run.id ≤ g.run.id) ∧
      ∀ before f after,
        (history env ops (fresh refreshing) s).flatMap (·.events) = before ++ .called f :: after →
        ∀ file, f.call = .upload file → lastStaged? before = some file := by
  obtain ⟨r, path⟩ := Path.history env ops (fresh refreshing) s
  have haccounts := path.accounts (.fresh refreshing) (.of_idle rfl rfl rfl)
  rw [List.nil_append] at haccounts
  exact ⟨haccounts.protocol, haccounts.numbers, haccounts.uploads⟩

end Run

end CsvCleaning
