import CsvCleaning.Proofs.Run.Orders
import CsvCleaning.Proofs.Run.Settlement

/-!
# What observers are shown

A run shows itself to observers at the beginning of each stage, at the end of each stage that was
answered, and when it is staged, cleared or settled; between these moments it changes unseen. What
observers see is the run as it is whenever an operation has ended, and while a stage call is on its
way. And what they are shown of one run, one after the other, never takes a complete step back.
-/

namespace CsvCleaning

/-- Something that observers were shown, with the number of the run. -/
structure Publication where
  run : Nat
  seen : Snapshot

namespace Publication

/-- How many steps are shown as complete. -/
def completed (p : Publication) : Nat :=
  (Progress.ofSnapshot p.seen).completedCount

/-- The first is of an earlier run, or shows no more steps of the same run as complete. -/
def Precedes (p q : Publication) : Prop :=
  p.run < q.run ∨ p.run = q.run ∧ p.completed ≤ q.completed

/-- The steps shown as complete go with the phase. -/
structure Fits (p : Publication) : Prop where
  uploaded : p.seen.phase = .uploaded → 1 ≤ p.completed
  processed : p.seen.phase = .processed → 2 ≤ p.completed
  executed : p.seen.phase = .executed → 3 ≤ p.completed
  ready : p.seen.phase = .ready → p.completed = 4

/-- As many steps as the phase has completed are enough. -/
theorem Fits.of_le {p : Publication} (h : p.seen.phase.completed ≤ p.completed)
    (hfour : p.completed ≤ 4) : p.Fits where
  uploaded hphase := by rwa [hphase] at h
  processed hphase := by rwa [hphase] at h
  executed hphase := by rwa [hphase] at h
  ready hphase := by
    rw [hphase] at h
    exact Nat.le_antisymm hfour h

end Publication

/-- How many flags are set. -/
def Flags.count (f : Flags) : Nat :=
  f.toList.count true

/-- More flags are set in more flags. -/
theorem Flags.count_mono {f g : Flags} (h : f ≤ g) : f.count ≤ g.count := by
  obtain ⟨a, b, c, d⟩ := f
  obtain ⟨a', b', c', d'⟩ := g
  revert h
  revert a b c d a' b' c' d'
  decide

/-- At most four flags are set. -/
theorem Flags.count_le (f : Flags) : f.count ≤ 4 :=
  List.count_le_length

/-- The flags of so many stages are so many. -/
theorem Flags.count_upTo_completed (phase : Phase) :
    (Flags.upTo phase.completed).count = phase.completed := by
  cases phase with
  | failed stage message => cases stage <;> rfl
  | _ => rfl

/-- The flags of the record in a snapshot, none without one. -/
def Snapshot.flags (seen : Snapshot) : Flags :=
  match seen.record with
  | some a => a.flags
  | none => .none

/-- The complete steps are the flags of the record. -/
theorem Progress.completedCount_ofSnapshot (seen : Snapshot) :
    (ofSnapshot seen).completedCount = seen.flags.count := by
  cases hrecord : seen.record with
  | none => simp [ofSnapshot, stepsOf, StepKind.all, StepView.viewOf, Snapshot.flags, hrecord,
      Flags.count, Flags.none, Flags.toList]
  | some a => simp [ofSnapshot, stepsOf, StepKind.all, StepView.viewOf, StepKind.flag,
      Snapshot.flags, hrecord, Flags.count, Flags.toList, List.countP_cons, List.count_cons]

namespace Run

/-- What observers see of a run. -/
def publication (r : Run) : Publication :=
  ⟨r.id, r.published⟩

/-- What observers see is the run as it is. -/
def Current (r : Run) : Prop :=
  r.published = r.snapshot

/-- The flags that are seen of a run with a record are those of the record. -/
theorem flags_snapshot_of_some {r : Run} {a : Record} (ha : r.record = some a) :
    r.snapshot.flags = a.flags := by
  simp [Snapshot.flags, snapshot, ha]

/-- No flags are seen of a run without a record. -/
theorem flags_snapshot_of_none {r : Run} (hrecord : r.record = none) :
    r.snapshot.flags = .none := by
  simp [Snapshot.flags, snapshot, hrecord]

/-- The second run is a later one, or the same with no flag less. -/
def Ahead (r r' : Run) : Prop :=
  r.id < r'.id ∨ r.id = r'.id ∧ r.snapshot.flags ≤ r'.snapshot.flags

namespace Ahead

/-- A run is ahead of itself. -/
protected theorem refl (r : Run) : r.Ahead r :=
  .inr ⟨rfl, Flags.le_refl _⟩

/-- A run with the same number and record is ahead. -/
theorem of_eq {r r' : Run} (hid : r'.id = r.id) (hrecord : r'.record = r.record) : r.Ahead r' := by
  refine .inr ⟨hid.symm, ?_⟩
  simp only [Snapshot.flags, snapshot, hrecord]
  exact Flags.le_refl _

/-- Being ahead carries over. -/
protected theorem trans {r₁ r₂ r₃ : Run} (h : r₁.Ahead r₂) (h' : r₂.Ahead r₃) : r₁.Ahead r₃ := by
  rcases h with hid | ⟨hid, hflags⟩ <;> rcases h' with hid' | ⟨hid', hflags'⟩
  · exact .inl (Nat.lt_trans hid hid')
  · exact .inl (hid' ▸ hid)
  · exact .inl (hid ▸ hid')
  · exact .inr ⟨hid.trans hid', Flags.le_trans hflags hflags'⟩

/-- A run that is ahead shows no complete step less. -/
theorem precedes {r r' : Run} (h : r.Ahead r') (hr : r.Current) (hr' : r'.Current) :
    r.publication.Precedes r'.publication := by
  refine h.imp (fun hid => hid) fun ⟨hid, hflags⟩ => ⟨hid, ?_⟩
  unfold Publication.completed publication
  rw [hr, hr', Progress.completedCount_ofSnapshot, Progress.completedCount_ofSnapshot]
  exact Flags.count_mono hflags

end Ahead

/-- A raised run is ahead. -/
theorem RaisedTo.ahead {r r' : Run} (h : r.RaisedTo r') : r.Ahead r' := by
  refine .inr ⟨h.id.symm, ?_⟩
  have hrecord := h.record
  simp only [Snapshot.flags, snapshot]
  generalize r.record = x at hrecord
  generalize r'.record = x' at hrecord
  cases hrecord with
  | none => exact Flags.le_refl _
  | some hab => exact hab.flags

/-- What a sound run shows goes with its phase. -/
theorem Sound.fits {r : Run} (h : r.Sound) (hcurrent : r.Current) : r.publication.Fits := by
  have hcount : r.publication.completed = r.snapshot.flags.count := by
    unfold Publication.completed publication
    rw [hcurrent]
    exact Progress.completedCount_ofSnapshot _
  have hphase : r.publication.seen.phase = r.phase := by
    unfold publication
    rw [hcurrent]
    rfl
  have hflags : Flags.upTo r.phase.completed ≤ r.snapshot.flags := by
    cases hrecord : r.record with
    | none =>
      have hnone : ¬ 0 < r.phase.completed := by simpa [hrecord] using h.record
      rw [flags_snapshot_of_none hrecord, Nat.eq_zero_of_not_pos hnone]
      exact Flags.le_refl _
    | some a =>
      rw [flags_snapshot_of_some hrecord]
      exact h.flags a hrecord
  refine .of_le ?_ (hcount ▸ Flags.count_le _)
  rw [hcount, hphase, ← Flags.count_upTo_completed r.phase]
  exact Flags.count_mono hflags

/-- An accepted reply shows nothing yet. -/
theorem Advance.publication_eq {r r' : Run} {stage : Stage} {c : Call} {reply : c.Reply}
    (h : Advance r stage c reply r') : r'.publication = r.publication := by
  cases h <;> rfl

/-- Refreshes that come back show nothing yet. -/
theorem publication_receiveAll (r : Run) (arrivals : List Arrival) :
    (r.receiveAll arrivals).publication = r.publication := by
  induction arrivals generalizing r with
  | nil => rfl
  | cons a rest ih =>
    change ((r.receive a).receiveAll rest).publication = _
    rw [ih, receive_eq]
    rfl

/-- Every turn leads to a run that is ahead. -/
theorem Turn.ahead {σ : Type} {env : Surroundings σ} {x y : Run × σ} (t : Turn env x y)
    (h : x.1.Sound) : x.1.Ahead y.1 := by
  cases t with
  | stageFile file =>
    unfold Run.stageFile
    split
    · exact .refl _
    · dsimp only
      split
      · exact .inl (Nat.lt_succ_self _)
      · exact .of_eq rfl rfl
  | clear r s => exact .inl (Nat.lt_succ_self _)
  | @resume r s stage message hphase =>
    rw [resume_of_failed hphase]
    refine .inr ⟨rfl, ?_⟩
    simp only [Snapshot.flags, snapshot]
    cases r.record <;> exact Flags.le_refl _
  | enter hphase hc => exact .of_eq rfl rfl
  | call c seen => exact .refl _
  | @conclude r s stage c hphase hc answer =>
    rcases h.conclude_cases hphase hc answer with ⟨e, -, hfail⟩ | ⟨_, -, -, hadvance⟩
    · rw [hfail]
      refine .inr ⟨rfl, ?_⟩
      simp only [Snapshot.flags, snapshot, fail]
      cases r.record <;> exact Flags.le_refl _
    · refine .inr ⟨hadvance.refreshes.1.symm, ?_⟩
      obtain ⟨b, hb⟩ := Option.ne_none_iff_exists'.mp hadvance.record_ne_none
      rcases hadvance.flags hb with ⟨hupload, -⟩ | ⟨a, ha, -, hflags⟩
      · -- An upload makes the first record of a run.
        subst hupload
        rw [flags_snapshot_of_none (h.record_eq_none (by rw [hphase]; rfl))]
        exact Flags.none_le _
      · rw [flags_snapshot_of_some ha, flags_snapshot_of_some hb, hflags]
        exact Flags.le_join_left _ _
  | order hticket => exact .of_eq rfl rfl
  | arrive r s => exact (RaisedTo.receiveAll r _).ahead
  | settle r s seen =>
    exact ((RaisedTo.receiveAll r _).trans (.of_eq rfl rfl rfl rfl rfl)).ahead
  | publish r s => exact .of_eq rfl rfl

/-- Turns in a row, with what observers are shown on the way: the run after each turn that shows it
as it is. -/
inductive Shows {σ : Type} (env : Surroundings σ) :
    Run × σ → List Publication → Run × σ → Prop where
  | refl (x : Run × σ) : Shows env x [] x
  | quiet {x y z : Run × σ} {shown : List Publication} (h : Shows env x shown y) (t : Turn env y z)
      (hsame : z.1.publication = y.1.publication) : Shows env x shown z
  | shown {x y z : Run × σ} {shown : List Publication} (h : Shows env x shown y) (t : Turn env y z)
      (hcurrent : z.1.Current) : Shows env x (shown ++ [z.1.publication]) z

namespace Shows

variable {σ : Type} {env : Surroundings σ} {x y z : Run × σ} {shown shown' : List Publication}

/-- What is shown along turns in a row is shown in this order. -/
theorem append (h : Shows env x shown y) (h' : Shows env y shown' z) :
    Shows env x (shown ++ shown') z := by
  induction h' with
  | refl => simpa using h
  | quiet _ t hsame ih => exact ih.quiet t hsame
  | shown _ t hcurrent ih =>
    rw [← List.append_assoc]
    exact ih.shown t hcurrent

/-- Along turns a run stays sound and gets ahead. -/
theorem sound (h : Shows env x shown y) (hx : x.1.Sound) : y.1.Sound ∧ x.1.Ahead y.1 := by
  induction h with
  | refl => exact ⟨hx, .refl _⟩
  | quiet _ t _ ih | shown _ t _ ih =>
    obtain ⟨hsound, hahead⟩ := ih
    exact ⟨t.sound hsound, hahead.trans (t.ahead hsound)⟩

/-- What is shown is a sound run as it is, on the way from the first to the last. -/
theorem exists_of_mem (h : Shows env x shown y) (hx : x.1.Sound) {p : Publication}
    (hp : p ∈ shown) :
    ∃ r : Run, r.publication = p ∧ r.Current ∧ r.Sound ∧ x.1.Ahead r ∧ r.Ahead y.1 := by
  induction h with
  | refl => cases hp
  | quiet h t _ ih =>
    obtain ⟨r, hr, hcurrent, hsound, hafter, hbefore⟩ := ih hp
    exact ⟨r, hr, hcurrent, hsound, hafter, hbefore.trans (t.ahead (h.sound hx).1)⟩
  | @shown y z shown h t hcurrent ih =>
    obtain ⟨hsound, hahead⟩ := h.sound hx
    rcases List.mem_append.mp hp with hp | hp
    · obtain ⟨r, hr, hcurrent', hsound', hafter, hbefore⟩ := ih hp
      exact ⟨r, hr, hcurrent', hsound', hafter, hbefore.trans (t.ahead hsound)⟩
    · rw [List.mem_singleton.mp hp]
      exact ⟨z.1, rfl, hcurrent, t.sound hsound, hahead.trans (t.ahead hsound), .refl _⟩

/-- What is shown goes with the phase that is shown. -/
theorem fits (h : Shows env x shown y) (hx : x.1.Sound) {p : Publication} (hp : p ∈ shown) :
    p.Fits := by
  obtain ⟨r, rfl, hcurrent, hsound, -, -⟩ := h.exists_of_mem hx hp
  exact hsound.fits hcurrent

/-- What is shown later never takes a complete step back. -/
theorem pairwise (h : Shows env x shown y) (hx : x.1.Sound) :
    shown.Pairwise Publication.Precedes := by
  induction h with
  | refl => exact .nil
  | quiet _ _ _ ih => exact ih
  | @shown y z shown h t hcurrent ih =>
    refine List.pairwise_append.mpr ⟨ih, List.pairwise_singleton _ _, fun p hp q hq => ?_⟩
    obtain ⟨r, rfl, hr, -, -, hbefore⟩ := h.exists_of_mem hx hp
    rw [List.mem_singleton.mp hq]
    exact (hbefore.trans (t.ahead (h.sound hx).1)).precedes hr hcurrent

/-- Observers see what they were shown last. -/
theorem getLast? (h : Shows env x shown y) :
    (x.1.publication :: shown).getLast? = some y.1.publication := by
  induction h with
  | refl => rfl
  | quiet _ _ hsame ih => rw [ih, hsame]
  | shown _ _ _ _ => rw [← List.cons_append, List.getLast?_concat]

end Shows

section Operations

variable {σ : Type} (env : Surroundings σ)

/-- What a step shows: the run in its stage, and after it if the call is answered. -/
def shownByStep (r : Run) (s : σ) : List Publication :=
  (r.flight? env s).toList.map (·.run.publication) ++
    match r.step env s with
    | (.done true, r', _) => [r'.publication]
    | _ => []

/-- What stages show that are carried out until none comes next. -/
def shownByStages (r : Run) (s : σ) : List Publication :=
  match _h : r.step env s with
  | (.done true, r', s') => r.shownByStep env s ++ shownByStages r' s'
  | _ => r.shownByStep env s
termination_by r.phase.stagesAhead
decreasing_by exact stagesAhead_lt_of_step env _h

/-- What an operation shows. A file that is staged in a run that has come to rest shows the cleared
run first. -/
def shownBy (r : Run) (s : σ) : Operation → List Publication
  | .stageFile file =>
    if r.phase.isBusy then []
    else (if r.phase ≠ .idle ∨ r.record.isSome then [r.clear.publication] else []) ++
      [(r.stageFile file).1.publication]
  | .clear => [r.clear.publication]
  | .start => if r.phase.canStart then r.resume.shownByStages env s else []
  | .step => r.shownByStep env s
  | .settle => [(r.settle env s).1.publication]

/-- What a sequence of operations shows. -/
def shownDuring : List Operation → Run → σ → List Publication
  | [], _, _ => []
  | op :: ops, r, s =>
    r.shownBy env s op ++ shownDuring ops (r.perform env s op).2.1 (r.perform env s op).2.2

/-- The stages that are carried out show what their steps show. -/
theorem shownByStages_eq (r : Run) (s : σ) :
    r.shownByStages env s =
      r.shownByStep env s ++
        match r.step env s with
        | (.done true, r', s') => r'.shownByStages env s'
        | _ => [] := by
  rw [shownByStages]
  split <;> simp [*]

/-- The end of a stage shows the run once. -/
theorem shows_finishStage (r : Run) (s : σ) :
    Shows env (r, s) [(r.finishStage env s).1.publication] (r.finishStage env s) := by
  have horder : Shows env (r, s) [] (r.order env s) := by
    unfold order
    split
    · rename_i ticket hticket
      exact (Shows.refl _).quiet (.order hticket) rfl
    · exact .refl _
  have harrive : Shows env (r, s) [] _ :=
    horder.quiet (.arrive _ _) (publication_receiveAll _ _)
  exact harrive.shown (.publish _ _) rfl

/-- A step shows what it is said to show. -/
theorem shows_step {r : Run} (h : r.Sound) (s : σ) :
    Shows env (r, s) (r.shownByStep env s) (r.step env s).2 := by
  unfold shownByStep
  rcases step_cases env r s with ⟨-, hflight, hstep⟩ | ⟨-, -, hflight, hstep⟩ |
    ⟨stage, c, hphase, hc, ⟨s', hcall, hflight, hstep⟩ | ⟨answer, s', hcall, hflight, hstep⟩⟩
  · rw [hflight, hstep]
    exact .refl _
  · rw [hflight, hstep]
    exact .refl _
  all_goals
    have hc' : (r.enter stage).request? stage = some c := by rw [request?_enter, hc]
    have henter : Shows env (r, s) [(r.enter stage).publication] (r.enter stage, s) :=
      (Shows.refl (r, s)).shown (.enter hphase hc) rfl
    have hcalled : Shows env (r, s) [(r.enter stage).publication] (r.enter stage, s') := by
      have hturn : Turn env (r.enter stage, s)
          (r.enter stage, (env.call c (r.enter stage).published s).2) := .call c _
      rw [hcall] at hturn
      exact henter.quiet hturn rfl
    rw [hflight, hstep]
  · exact hcalled
  · have hsame : ((r.enter stage).conclude stage c answer).publication =
        (r.enter stage).publication := by
      rcases (h.enter hphase hc).conclude_cases rfl hc' answer with ⟨e, -, hfail⟩ |
        ⟨_, -, -, hadvance⟩
      · rw [hfail]
        rfl
      · exact hadvance.publication_eq
    exact (hcalled.quiet (.conclude rfl hc' answer) hsame).append (shows_finishStage env _ s')

/-- Carrying out stages shows what it is said to show. -/
theorem shows_runStages {r : Run} (h : r.Sound) (s : σ) :
    Shows env (r, s) (r.shownByStages env s) (r.runStages env s).2 := by
  induction r, s using runStages.induct env with
  | case1 r s r' s' hstep ih =>
    have hfirst := shows_step env h s
    rw [hstep] at hfirst
    rw [runStages_eq, shownByStages_eq, hstep]
    exact hfirst.append (ih (hfirst.sound h).1)
  | case2 r s r' s' hstep | case3 r s f r' s' hstep | case4 r s r' s' hstep =>
    have hfirst := shows_step env h s
    rw [hstep] at hfirst
    rw [runStages_eq, shownByStages_eq, hstep, List.append_nil]
    exact hfirst

/-- Resuming shows nothing yet. -/
theorem shows_resume (r : Run) (s : σ) : Shows env (r, s) [] (r.resume, s) := by
  cases hphase : r.phase with
  | failed stage message =>
    refine (Shows.refl _).quiet (.resume hphase) ?_
    rw [resume_of_failed hphase]
    rfl
  | _ =>
    rw [resume_of_failedStage?_eq_none (by rw [hphase]; rfl)]
    exact .refl _

/-- Staging a file shows what it is said to show. -/
theorem shows_stageFile (r : Run) (s : σ) (file : SourceFile) :
    Shows env (r, s) (r.shownBy env s (.stageFile file)) ((r.stageFile file).1, s) := by
  simp only [shownBy]
  by_cases hbusy : r.phase.isBusy = true
  · have hstage : (r.stageFile file).1 = r := by simp [stageFile, hbusy]
    rw [if_pos hbusy, hstage]
    exact .refl _
  · rw [if_neg hbusy]
    by_cases hrest : r.phase ≠ .idle ∨ r.record.isSome = true
    · -- A run that has come to rest is cleared, and the file staged in the cleared run.
      have hstage : (r.stageFile file).1 = { r.clear with file := some file }.publish := by
        simp only [stageFile, hbusy, if_pos hrest]
        rfl
      have hclear : (r.clear.stageFile file).1 = { r.clear with file := some file }.publish := rfl
      rw [if_pos hrest, hstage.trans hclear.symm]
      have hcleared : Shows env (r, s) [r.clear.publication] (r.clear, s) :=
        (Shows.refl (r, s)).shown (.clear r s) rfl
      exact hcleared.shown (.stageFile file) rfl
    · rw [if_neg hrest]
      refine (Shows.refl (r, s)).shown (.stageFile file) ?_
      simp only [stageFile, hbusy, hrest]
      rfl

/-- Every operation shows what it is said to show. -/
theorem shows_perform {r : Run} (h : r.Sound) (s : σ) (op : Operation) :
    Shows env (r, s) (r.shownBy env s op) (r.perform env s op).2 := by
  cases op with
  | stageFile file => exact shows_stageFile env r s file
  | clear => exact (Shows.refl (r, s)).shown (.clear r s) rfl
  | step => exact shows_step env h s
  | settle =>
    have hsettled := (Shows.refl (r, s)).quiet (.settle r s r.published)
      (publication_receiveAll r (env.settle r.pending r.published s).1)
    exact hsettled.shown (.publish _ _) rfl
  | start =>
    simp only [shownBy, perform, start_eq]
    split
    · have hresumed := shows_resume env r s
      exact hresumed.append (shows_runStages env (hresumed.sound h).1 s)
    · exact .refl _

/-- Operations in a row show what they are said to show. -/
theorem shows_operate (ops : List Operation) {r : Run} (h : r.Sound) (s : σ) :
    Shows env (r, s) (shownDuring env ops r s) (operate env ops r s) := by
  induction ops generalizing r s with
  | nil => exact .refl _
  | cons op ops ih =>
    have hfirst := shows_perform env h s op
    exact hfirst.append (ih (hfirst.sound h).1 _)

/-- A step that makes a call leaves a run that is shown as it is. -/
theorem current_step {r : Run} (s : σ) (h : r.Current ∨ (r.flight? env s).isSome) :
    (r.step env s).2.1.Current := by
  rcases step_cases env r s with ⟨-, hflight, hstep⟩ | ⟨-, -, hflight, hstep⟩ |
    ⟨stage, c, -, -, ⟨s', -, -, hstep⟩ | ⟨answer, s', -, -, hstep⟩⟩
  · rw [hstep]
    simpa [hflight] using h
  · rw [hstep]
    simpa [hflight] using h
  · rw [hstep]
    rfl
  · rw [hstep]
    rfl

/-- Stages of which the first makes a call leave a run that is shown as it is. -/
theorem current_runStages {r : Run} (s : σ) (h : r.Current ∨ (r.flight? env s).isSome) :
    (r.runStages env s).2.1.Current := by
  induction r, s using runStages.induct env with
  | case1 r s r' s' hstep ih =>
    have hfirst := current_step env s h
    rw [hstep] at hfirst
    rw [runStages_eq, hstep]
    exact ih (.inl hfirst)
  | case2 r s r' s' hstep | case3 r s f r' s' hstep | case4 r s r' s' hstep =>
    have hfirst := current_step env s h
    rw [hstep] at hfirst
    rw [runStages_eq, hstep]
    exact hfirst

/-- Every operation leaves a run that is shown as it is. -/
theorem current_perform {r : Run} (h : r.Sound) (hcurrent : r.Current) (s : σ) (op : Operation) :
    (r.perform env s op).2.1.Current := by
  cases op with
  | stageFile file =>
    change (r.stageFile file).1.Current
    unfold stageFile
    split
    · exact hcurrent
    · rfl
  | clear => rfl
  | settle => rfl
  | step => exact current_step env s (.inl hcurrent)
  | start =>
    simp only [perform, start_eq]
    split
    · refine current_runStages env s ?_
      cases hphase : r.phase with
      | failed stage message =>
        -- Resuming is not shown, but a sound run goes on with the call of the failed stage.
        obtain ⟨-, -, hresume, c, hc⟩ := h.resume_of_startsAt (.inr ⟨message, hphase⟩)
        right
        simp [flight?, Phase.nextStage?_eq_some_iff.mpr hresume, hc]
      | _ =>
        rw [resume_of_failedStage?_eq_none (by rw [hphase]; rfl)]
        exact .inl hcurrent
    · exact hcurrent

/-- Operations in a row leave a run that is shown as it is. -/
theorem current_operate (ops : List Operation) {r : Run} (h : r.Sound) (hcurrent : r.Current)
    (s : σ) : (operate env ops r s).1.Current := by
  induction ops generalizing r s with
  | nil => exact hcurrent
  | cons op ops ih =>
    have hsound := ((shows_perform env h s op).sound h).1
    exact ih hsound (current_perform env h hcurrent s op) _

end Operations

/-- The run that waits for the call of a move is shown as it is. -/
theorem Move.current_of_called {r r' : Run} {es : List Event} (m : Move r es r') {f : Flight}
    (hf : .called f ∈ es) : f.run.Current := by
  cases m with
  | abandon hphase hc | answer hphase hc answer =>
    obtain rfl := Event.called.inj (List.mem_singleton.mp hf)
    rfl
  | stage file _ => simp at hf
  | clear | resume | refresh => cases hf

/-- Every run that waits for a call of a path is shown as it is. -/
theorem Path.current_of_called {r r' : Run} {es : List Event} (path : Path r es r') {f : Flight}
    (hf : .called f ∈ es) : f.run.Current := by
  induction path with
  | refl => cases hf
  | tail _ m ih =>
    rcases List.mem_append.mp hf with hf | hf
    · exact ih hf
    · exact m.current_of_called hf

/-- Observers are never stale: after any operations, and while a stage call is on its way, they see
the run as it is. What they were shown is all that they ever saw, and the last of it is what they
see; of all this, nothing takes a complete step of the same run back, and the complete steps go with
the phase. -/
theorem observers_are_never_stale {σ : Type} (env : Surroundings σ) (refreshing : Bool) (s : σ)
    (ops : List Operation) :
    let x := operate env ops (fresh refreshing) s
    let shown := (fresh refreshing).publication :: shownDuring env ops (fresh refreshing) s
    x.1.published = x.1.snapshot ∧
      (∀ op, ∀ f ∈ x.1.flightsOf env x.2 op, f.run.published = f.run.snapshot) ∧
      Shows env (fresh refreshing, s) shown.tail x ∧
      shown.getLast? = some ⟨x.1.id, x.1.published⟩ ∧
      shown.Pairwise (fun p q => p.run = q.run → p.completed ≤ q.completed) ∧
      ∀ p ∈ shown, p.Fits := by
  intro x shown
  have hfresh : (fresh refreshing).Sound := .of_idle rfl rfl rfl
  have hcurrent : (fresh refreshing).Current := rfl
  have hshows : Shows env (fresh refreshing, s) (shownDuring env ops (fresh refreshing) s) x :=
    shows_operate env ops hfresh s
  refine ⟨current_operate env ops hfresh hcurrent s, ?_, hshows, hshows.getLast?, ?_, ?_⟩
  · intro op f hf
    refine (Path.perform env x.1 x.2 op).current_of_called ?_
    exact List.mem_append_right _ (List.mem_map_of_mem hf)
  · have hordered : shown.Pairwise Publication.Precedes := by
      refine List.pairwise_cons.mpr ⟨fun p hp => ?_, hshows.pairwise hfresh⟩
      obtain ⟨r, rfl, hr, -, hafter, -⟩ := hshows.exists_of_mem hfresh hp
      exact hafter.precedes hcurrent hr
    refine hordered.imp fun hprecedes hrun => ?_
    rcases hprecedes with hlt | ⟨-, hle⟩
    · omega
    · exact hle
  · intro p hp
    rcases List.mem_cons.mp hp with rfl | hp
    · exact hfresh.fits hcurrent
    · exact hshows.fits hfresh hp

end Run

end CsvCleaning
