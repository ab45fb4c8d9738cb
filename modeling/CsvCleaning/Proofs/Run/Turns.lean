import CsvCleaning.Proofs.Run.Reports
import CsvCleaning.Proofs.Run.Soundness
import Mathlib.Logic.Relation

/-!
# Runs and their surroundings, turn by turn

A turn is one thing that happens to a run together with what surrounds it: the user does something
to the run, the surroundings are asked for an answer, an order is placed, refreshes are handed over,
or the run is shown to observers. Every operation is a sequence of turns, so what each turn keeps
holds after all operations. Unlike a move, a turn says which refreshes are ordered and which come
back.
-/

namespace CsvCleaning.Run

/-- One thing that happens to a run and its surroundings. -/
inductive Turn {σ : Type} (env : Surroundings σ) : Run × σ → Run × σ → Prop where
  | stageFile {r : Run} {s : σ} (file : SourceFile) : Turn env (r, s) ((r.stageFile file).1, s)
  | clear (r : Run) (s : σ) : Turn env (r, s) (r.clear, s)
  | resume {r : Run} {s : σ} {stage : Stage} {message : String}
      (h : r.phase = .failed stage message) : Turn env (r, s) (r.resume, s)
  | enter {r : Run} {s : σ} {stage : Stage} {c : Call} (hphase : r.phase = stage.resumePhase)
      (hc : r.request? stage = some c) : Turn env (r, s) (r.enter stage, s)
  | call {r : Run} {s : σ} (c : Call) (seen : Snapshot) : Turn env (r, s) (r, (env.call c seen s).2)
  | conclude {r : Run} {s : σ} {stage : Stage} {c : Call} (hphase : r.phase = stage.busyPhase)
      (hc : r.request? stage = some c) (answer : Answer c) :
      Turn env (r, s) (r.conclude stage c answer, s)
  | order {r : Run} {s : σ} {ticket : Ticket} (h : r.nextTicket? = some ticket) :
      Turn env (r, s) (r.expect ticket, env.order ticket s)
  | arrive (r : Run) (s : σ) : Turn env (r, s) (r.receiveAll (env.arrived s).1, (env.arrived s).2)
  | settle (r : Run) (s : σ) (seen : Snapshot) :
      Turn env (r, s)
        ({ r.receiveAll (env.settle r.pending seen s).1 with pending := [] },
          (env.settle r.pending seen s).2)
  | publish (r : Run) (s : σ) : Turn env (r, s) (r.publish, s)

/-- Turns in a row. -/
abbrev Turns {σ : Type} (env : Surroundings σ) : Run × σ → Run × σ → Prop :=
  Relation.ReflTransGen (Turn env)

section Operations

variable {σ : Type} (env : Surroundings σ)

/-- The end of a stage is a sequence of turns. -/
theorem turns_finishStage (r : Run) (s : σ) : Turns env (r, s) (r.finishStage env s) := by
  have horder : Turns env (r, s) (r.order env s) := by
    unfold order
    split
    · rename_i ticket hticket
      exact .single (.order hticket)
    · exact .refl
  exact (horder.tail (.arrive _ _)).tail (.publish _ _)

/-- The stage call of a step is made on the way. -/
theorem turns_flight? {r : Run} {s : σ} {f : Flight} (h : r.flight? env s = some f) :
    ∃ s', Turns env (r, s) (f.run, s') ∧ Turns env (f.run, s') (r.step env s).2 := by
  rcases step_cases env r s with ⟨-, hnone, -⟩ | ⟨-, -, hnone, -⟩ |
    ⟨stage, c, hphase, hc, ⟨s', hcall, hflight, hstep⟩ | ⟨answer, s', hcall, hflight, hstep⟩⟩
  · cases hnone.symm.trans h
  · cases hnone.symm.trans h
  all_goals
    obtain rfl := Option.some.inj (hflight.symm.trans h)
    have hc' : (r.enter stage).request? stage = some c := by rw [request?_enter, hc]
    have hcalled : Turns env (r.enter stage, s) (r.enter stage, s') := by
      have hturn : Turn env (r.enter stage, s)
          (r.enter stage, (env.call c (r.enter stage).published s).2) := .call c _
      rw [hcall] at hturn
      exact .single hturn
    refine ⟨s, .single (.enter hphase hc), ?_⟩
    rw [hstep]
  · exact hcalled
  · exact (hcalled.tail (.conclude rfl hc' answer)).trans (turns_finishStage env _ s')

/-- A step is a sequence of turns. -/
theorem turns_step (r : Run) (s : σ) : Turns env (r, s) (r.step env s).2 := by
  rcases step_cases env r s with ⟨-, -, hstep⟩ | ⟨-, -, -, hstep⟩ |
    ⟨stage, c, -, -, ⟨s', -, hflight, -⟩ | ⟨answer, s', -, hflight, -⟩⟩
  · rw [hstep]
  · rw [hstep]
  all_goals
    obtain ⟨s'', hbefore, hafter⟩ := turns_flight? env hflight
    exact hbefore.trans hafter

/-- Carrying out stages is a sequence of turns. -/
theorem turns_runStages (r : Run) (s : σ) : Turns env (r, s) (r.runStages env s).2 := by
  induction r, s using runStages.induct env with
  | case1 r s r' s' hstep ih =>
    have hfirst := turns_step env r s
    rw [hstep] at hfirst
    rw [runStages_eq, hstep]
    exact hfirst.trans ih
  | case2 r s r' s' hstep | case3 r s f r' s' hstep | case4 r s r' s' hstep =>
    have hfirst := turns_step env r s
    rw [hstep] at hfirst
    rw [runStages_eq, hstep]
    exact hfirst

/-- Resuming is a turn, or nothing. -/
theorem turns_resume (r : Run) (s : σ) : Turns env (r, s) (r.resume, s) := by
  cases hphase : r.phase with
  | failed stage message => exact .single (.resume hphase)
  | _ =>
    rw [resume_of_failedStage?_eq_none (by rw [hphase]; rfl)]

/-- Every operation is a sequence of turns. -/
theorem turns_perform (r : Run) (s : σ) (op : Operation) :
    Turns env (r, s) (r.perform env s op).2 := by
  cases op with
  | stageFile file => exact .single (.stageFile file)
  | clear => exact .single (.clear r s)
  | step => exact turns_step env r s
  | settle =>
    exact (Relation.ReflTransGen.single (.settle r s r.published)).tail (.publish _ _)
  | start =>
    simp only [perform, start_eq]
    split
    · exact (turns_resume env r s).trans (turns_runStages env r.resume s)
    · exact .refl

/-- Operations in a row are a sequence of turns. -/
theorem turns_operate (ops : List Operation) (r : Run) (s : σ) :
    Turns env (r, s) (operate env ops r s) := by
  induction ops generalizing r s with
  | nil => exact .refl
  | cons op ops ih => exact (turns_perform env r s op).trans (ih _ _)

/-- The stage calls of stages that are carried out are made on the way. -/
theorem turns_flights {r : Run} {s : σ} {f : Flight} (h : f ∈ r.flights env s) :
    ∃ s', Turns env (r, s) (f.run, s') ∧ Turns env (f.run, s') (r.runStages env s).2 := by
  induction r, s using runStages.induct env with
  | case1 r s r' s' hstep ih =>
    rw [flights_eq, hstep] at h
    have hfirst := turns_step env r s
    rw [hstep] at hfirst
    rw [runStages_eq, hstep]
    rcases List.mem_append.mp h with h | h
    · obtain ⟨s'', hbefore, hafter⟩ := turns_flight? env (Option.mem_toList.mp h)
      rw [hstep] at hafter
      exact ⟨s'', hbefore, hafter.trans (turns_runStages env r' s')⟩
    · obtain ⟨s'', hbefore, hafter⟩ := ih h
      exact ⟨s'', hfirst.trans hbefore, hafter⟩
  | case2 r s r' s' hstep | case3 r s e r' s' hstep | case4 r s r' s' hstep =>
    rw [flights_eq, hstep, List.append_nil] at h
    obtain ⟨s'', hbefore, hafter⟩ := turns_flight? env (Option.mem_toList.mp h)
    rw [hstep] at hafter
    rw [runStages_eq, hstep]
    exact ⟨s'', hbefore, hafter⟩

/-- The stage calls of an operation are made on the way. -/
theorem turns_flightsOf {r : Run} {s : σ} {op : Operation} {f : Flight}
    (h : f ∈ r.flightsOf env s op) :
    ∃ s', Turns env (r, s) (f.run, s') ∧ Turns env (f.run, s') (r.perform env s op).2 := by
  cases op with
  | stageFile file | clear | settle => cases h
  | step => exact turns_flight? env (Option.mem_toList.mp h)
  | start =>
    simp only [flightsOf, perform, start_eq] at h ⊢
    split at h
    · rename_i hstart
      rw [if_pos hstart]
      obtain ⟨s', hbefore, hafter⟩ := turns_flights env h
      exact ⟨s', (turns_resume env r s).trans hbefore, hafter⟩
    · cases h

end Operations

/-- Every turn keeps a run sound. -/
theorem Turn.sound {σ : Type} {env : Surroundings σ} {x y : Run × σ} (t : Turn env x y)
    (h : x.1.Sound) : y.1.Sound := by
  cases t with
  | stageFile file => exact h.stageFile file
  | clear => exact .of_idle rfl rfl rfl
  | resume hphase => exact h.resume hphase
  | enter hphase hc => exact h.enter hphase hc
  | call c seen => exact h
  | conclude hphase hc answer =>
    rcases h.conclude_cases hphase hc answer with ⟨e, -, hfail⟩ | ⟨_, -, -, hadvance⟩
    · exact hfail ▸ h.fail hphase e
    · exact h.advance hphase hc hadvance
  | order hticket => exact h.raise (.of_eq rfl rfl rfl rfl rfl)
  | arrive r s => exact h.raise (.receiveAll r _)
  | settle r s seen =>
    exact h.raise ((RaisedTo.receiveAll r _).trans (.of_eq rfl rfl rfl rfl rfl))
  | publish r s => exact h.raise (.publish r)

/-- No turn changes whether refreshes are ordered. -/
theorem Turn.refreshing {σ : Type} {env : Surroundings σ} {x y : Run × σ} (t : Turn env x y)
    (h : x.1.Sound) : y.1.refreshing = x.1.refreshing := by
  cases t with
  | stageFile file =>
    unfold Run.stageFile
    split
    · rfl
    · dsimp only
      split <;> rfl
  | resume hphase => rw [resume_of_failed hphase]
  | conclude hphase hc answer =>
    rcases h.conclude_cases hphase hc answer with ⟨e, -, hfail⟩ | ⟨_, -, -, hadvance⟩
    · rw [hfail]
      rfl
    · exact hadvance.refreshes.2.2.1
  | arrive r s => exact (receiveAll_orders r _).2
  | settle r s seen => exact (receiveAll_orders r _).2
  | clear | enter _ _ | call _ _ | order _ | publish => rfl

/-- Turns keep a run sound, and do not change whether refreshes are ordered. -/
theorem Turns.sound {σ : Type} {env : Surroundings σ} {x y : Run × σ} (t : Turns env x y)
    (h : x.1.Sound) : y.1.Sound ∧ y.1.refreshing = x.1.refreshing := by
  induction t with
  | refl => exact ⟨h, rfl⟩
  | tail _ t ih => exact ⟨t.sound ih.1, (t.refreshing ih.1).trans ih.2⟩

end CsvCleaning.Run
