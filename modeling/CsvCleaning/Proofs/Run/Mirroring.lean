import CsvCleaning.Proofs.Run.Renumbering

/-!
# Mirrored surroundings

Surroundings mirror others if they are to a run under later numbers what the others are to the run
itself: calls are answered alike and the same refreshes come back, perhaps with some in between that
were ordered under earlier numbers. A run under later numbers in mirrored surroundings does the same
as the run itself, operation by operation.
-/

namespace CsvCleaning

/-- The second surroundings are, to a run under later numbers, what the first ones are to the run
itself. `Alike` says which of their states correspond. -/
structure Surroundings.Mirrors {σ σ' : Type} (env : Surroundings σ) (env' : Surroundings σ')
    (runs tickets : Nat) (Alike : σ → σ' → Prop) : Prop where
  call : ∀ {s s'}, Alike s s' → ∀ c seen,
    (env'.call c (seen.renumber runs) s').1 = (env.call c seen s).1 ∧
      Alike (env.call c seen s).2 (env'.call c (seen.renumber runs) s').2
  order : ∀ {s s'}, Alike s s' → ∀ ticket : Ticket,
    Alike (env.order ticket s) (env'.order (ticket.renumber runs tickets) s')
  arrived : ∀ {s s'}, Alike s s' →
    (env'.arrived s').1.filter (runs ≤ ·.ticket.run) =
        (env.arrived s).1.map (·.renumber runs tickets) ∧
      Alike (env.arrived s).2 (env'.arrived s').2
  settle : ∀ {s s'}, Alike s s' → ∀ (expected : List Ticket) seen,
    (env'.settle (expected.map (·.renumber runs tickets)) (seen.renumber runs) s').1.filter
          (runs ≤ ·.ticket.run) =
        (env.settle expected seen s).1.map (·.renumber runs tickets) ∧
      Alike (env.settle expected seen s).2
        (env'.settle (expected.map (·.renumber runs tickets)) (seen.renumber runs) s').2

namespace Run

/-- What a run comes to under later numbers: it returns the same, and its surroundings
correspond. -/
structure Mirrored {α σ σ' : Type} (runs tickets : Nat) (Alike : σ → σ' → Prop) (x : α × Run × σ)
    (x' : α × Run × σ') : Prop where
  returned : x'.1 = x.1
  run : x'.2.1 = x.2.1.renumber runs tickets
  alike : Alike x.2.2 x'.2.2

variable {σ σ' : Type} {env : Surroundings σ} {env' : Surroundings σ'} {runs tickets : Nat}
  {Alike : σ → σ' → Prop}

/-- The end of a stage is mirrored. -/
theorem finishStage_mirrored (h : env.Mirrors env' runs tickets Alike) (r : Run) {s : σ} {s' : σ'}
    (hs : Alike s s') :
    ((r.renumber runs tickets).finishStage env' s').1 =
        (r.finishStage env s).1.renumber runs tickets ∧
      Alike (r.finishStage env s).2 ((r.renumber runs tickets).finishStage env' s').2 := by
  obtain ⟨hordered, hs₁⟩ : ((r.renumber runs tickets).order env' s').1 =
        (r.order env s).1.renumber runs tickets ∧
      Alike (r.order env s).2 ((r.renumber runs tickets).order env' s').2 := by
    unfold order
    rw [nextTicket?_renumber]
    cases r.nextTicket? with
    | none => exact ⟨rfl, hs⟩
    | some ticket => exact ⟨expect_renumber runs tickets r ticket, h.order hs ticket⟩
  obtain ⟨harrivals, hs₂⟩ := h.arrived hs₁
  refine ⟨?_, hs₂⟩
  simp only [finishStage, hordered]
  rw [receiveAll_renumber runs tickets _ harrivals, publish_renumber]

/-- A step is mirrored, with its stage call. -/
theorem step_mirrored (h : env.Mirrors env' runs tickets Alike) (r : Run) {s : σ} {s' : σ'}
    (hs : Alike s s') :
    Mirrored runs tickets Alike (r.step env s) ((r.renumber runs tickets).step env' s') ∧
      (r.renumber runs tickets).flight? env' s' =
        (r.flight? env s).map (·.renumber runs tickets) := by
  rcases step_cases env r s with ⟨hnext, hflight, hstep⟩ | ⟨hphase, hfile, hflight, hstep⟩ |
    ⟨stage, c, hphase, hc, ⟨s₁, hcall, hflight, hstep⟩ | ⟨answer, s₁, hcall, hflight, hstep⟩⟩
  · have hnext' : (r.renumber runs tickets).phase.nextStage? = none := hnext
    obtain ⟨hflight', hstep'⟩ := step_of_nextStage?_eq_none env' hnext' s'
    rw [hflight, hstep, hflight', hstep']
    exact ⟨⟨rfl, rfl, hs⟩, rfl⟩
  · have hphase' : (r.renumber runs tickets).phase = .idle := hphase
    obtain ⟨hflight', hstep'⟩ := step_of_file_eq_none env' hphase' hfile s'
    rw [hflight, hstep, hflight', hstep']
    exact ⟨⟨rfl, rfl, hs⟩, rfl⟩
  all_goals
    have hphase' : (r.renumber runs tickets).phase = stage.resumePhase := hphase
    have hc' : (r.renumber runs tickets).request? stage = some c := by rw [request?_renumber, hc]
    obtain ⟨hanswer, hs₁⟩ := h.call hs c (r.enter stage).published
    rw [hcall] at hanswer hs₁
  · obtain ⟨hflight', hstep'⟩ := step_of_call_eq_none env' hphase' hc' (Prod.ext hanswer rfl)
    rw [hflight, hstep, hflight', hstep']
    exact ⟨⟨rfl, rfl, hs₁⟩, rfl⟩
  · obtain ⟨hflight', hstep'⟩ := step_of_call_eq_some env' hphase' hc' (Prod.ext hanswer rfl)
    rw [hflight, hstep, hflight', hstep', enter_renumber, conclude_renumber]
    obtain ⟨hrun, hs₂⟩ := finishStage_mirrored h ((r.enter stage).conclude stage c answer) hs₁
    exact ⟨⟨rfl, hrun, hs₂⟩, rfl⟩

/-- A step that has come to something has a mirror that has come to the same. -/
theorem exists_step_mirrored (h : env.Mirrors env' runs tickets Alike) {r r₁ : Run} {s s₁ : σ}
    {s' : σ'} (hs : Alike s s') {ending : Ending Bool} (hstep : r.step env s = (ending, r₁, s₁)) :
    ∃ s₁', (r.renumber runs tickets).step env' s' = (ending, r₁.renumber runs tickets, s₁') ∧
      Alike s₁ s₁' := by
  obtain ⟨⟨hreturned, hrun, hs₁⟩, -⟩ := step_mirrored h r hs
  rw [hstep] at hreturned hrun hs₁
  exact ⟨_, Prod.ext hreturned (Prod.ext hrun rfl), hs₁⟩

/-- Carrying out stages is mirrored, with the calls. -/
theorem runStages_mirrored (h : env.Mirrors env' runs tickets Alike) (r : Run) {s : σ} {s' : σ'}
    (hs : Alike s s') :
    Mirrored runs tickets Alike (r.runStages env s) ((r.renumber runs tickets).runStages env' s') ∧
      (r.renumber runs tickets).flights env' s' =
        (r.flights env s).map (·.renumber runs tickets) := by
  induction r, s using runStages.induct env generalizing s' with
  | case1 r s r₁ s₁ hstep ih =>
    obtain ⟨-, hflight⟩ := step_mirrored h r hs
    obtain ⟨s₁', hstep', hs₁⟩ := exists_step_mirrored h hs hstep
    obtain ⟨hrest, hflights⟩ := ih hs₁
    rw [runStages_eq env r s, flights_eq env r s, runStages_eq env', flights_eq env', hstep, hstep',
      hflight]
    refine ⟨hrest, ?_⟩
    simp only [hflights, List.map_append, Option.toList_map]
  | case2 r s r₁ s₁ hstep | case3 r s e r₁ s₁ hstep | case4 r s r₁ s₁ hstep =>
    obtain ⟨-, hflight⟩ := step_mirrored h r hs
    obtain ⟨s₁', hstep', hs₁⟩ := exists_step_mirrored h hs hstep
    rw [runStages_eq env r s, flights_eq env r s, runStages_eq env', flights_eq env', hstep, hstep',
      hflight]
    exact ⟨⟨rfl, rfl, hs₁⟩, by simp only [List.append_nil, Option.toList_map]⟩

/-- Every operation is mirrored, with its calls. -/
theorem perform_mirrored (h : env.Mirrors env' runs tickets Alike) (r : Run) {s : σ} {s' : σ'}
    (hs : Alike s s') (op : Operation) :
    Mirrored runs tickets Alike (r.perform env s op)
        ((r.renumber runs tickets).perform env' s' op) ∧
      (r.renumber runs tickets).flightsOf env' s' op =
        (r.flightsOf env s op).map (·.renumber runs tickets) := by
  cases op with
  | stageFile file =>
    have hstaged := stageFile_renumber runs tickets r file
    exact ⟨⟨by simp only [perform, hstaged], by simp only [perform, hstaged], hs⟩, rfl⟩
  | clear => exact ⟨⟨rfl, clear_renumber runs tickets r, hs⟩, rfl⟩
  | step =>
    obtain ⟨⟨hreturned, hrun, hs₁⟩, hflight⟩ := step_mirrored h r hs
    refine ⟨⟨congrArg Outcome.stepped hreturned, hrun, hs₁⟩, ?_⟩
    simp only [flightsOf, hflight, Option.toList_map]
  | settle =>
    obtain ⟨harrivals, hs₁⟩ := h.settle hs r.pending r.published
    have hreceived := receiveAll_renumber runs tickets r harrivals
    have hsettled := congrArg (fun x : Run => { x with pending := [] }.publish) hreceived
    exact ⟨⟨rfl, hsettled, hs₁⟩, rfl⟩
  | start =>
    have hphase : (r.renumber runs tickets).phase = r.phase := rfl
    simp only [perform, flightsOf, start_eq, hphase, resume_renumber]
    split
    · obtain ⟨⟨hreturned, hrun, hs₁⟩, hflights⟩ := runStages_mirrored h r.resume hs
      exact ⟨⟨congrArg Outcome.started hreturned, hrun, hs₁⟩, hflights⟩
    · exact ⟨⟨rfl, rfl, hs⟩, rfl⟩

/-- A history under later numbers is the history itself, up to the numbers. -/
theorem history_mirrored (h : env.Mirrors env' runs tickets Alike) (ops : List Operation) (r : Run)
    {s : σ} {s' : σ'} (hs : Alike s s') :
    history env' ops (r.renumber runs tickets) s' =
      (history env ops r s).map (·.renumber runs tickets) := by
  induction ops generalizing r s s' with
  | nil => rfl
  | cons op ops ih =>
    obtain ⟨⟨hreturned, hrun, hs₁⟩, hflights⟩ := perform_mirrored h r hs op
    have hentry : (r.renumber runs tickets).entry env' s' op =
        (r.entry env s op).renumber runs tickets := by
      simp only [entry, Entry.renumber, hreturned, hrun, hflights]
    have hrest := ih (r.perform env s op).2.1 hs₁
    rw [← hrun] at hrest
    rw [history, history, List.map_cons, hentry, hrest]

/-- Operations under later numbers lead to the same run, up to the numbers. -/
theorem operate_mirrored (h : env.Mirrors env' runs tickets Alike) (ops : List Operation) (r : Run)
    {s : σ} {s' : σ'} (hs : Alike s s') :
    (operate env' ops (r.renumber runs tickets) s').1 =
        (operate env ops r s).1.renumber runs tickets ∧
      Alike (operate env ops r s).2 (operate env' ops (r.renumber runs tickets) s').2 := by
  induction ops generalizing r s s' with
  | nil => exact ⟨rfl, hs⟩
  | cons op ops ih =>
    obtain ⟨⟨-, hrun, hs₁⟩, -⟩ := perform_mirrored h r hs op
    have hrest := ih (r.perform env s op).2.1 hs₁
    rw [← hrun] at hrest
    exact hrest

end Run

end CsvCleaning
