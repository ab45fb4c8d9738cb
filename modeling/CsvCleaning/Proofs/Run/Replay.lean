import CsvCleaning.Proofs.Run.Lockstep

/-!
# Replaying a run

The answers to its stage calls are all that a run needs to know of its surroundings, apart from
flags. If they are replayed to a run that orders no refreshes, the two go side by side, and every
answer is asked for in its turn. Hence runs whose calls have had the same answers agree in
everything that their refreshes cannot reach.
-/

namespace CsvCleaning

/-- Surroundings that give answers as noted down, one after the other, and have no refreshes. A call
that is not the one noted down is given up. -/
def Surroundings.replaying : Surroundings (List Asked) where
  call c _ script :=
    match script with
    | [] => (none, [])
    | ⟨c', answer⟩ :: rest => (if h : c' = c then h ▸ answer else none, rest)
  order _ script := script
  arrived script := ([], script)
  settle _ _ script := ([], script)

/-- A call is given the answer that was noted down for it. -/
@[simp] theorem Surroundings.call_replaying (c : Call) (seen : Snapshot)
    (answer : Option (Answer c)) (rest : List Asked) :
    replaying.call c seen (⟨c, answer⟩ :: rest) = (answer, rest) := by
  simp [replaying]

namespace Run

/-- The stage calls of operations on a run. -/
def callsDuring {σ : Type} (env : Surroundings σ) (ops : List Operation) (r : Run) (s : σ) :
    List Flight :=
  (history env ops r s).flatMap (·.flights)

/-- The stage calls of the first operation come before those of the others. -/
theorem callsDuring_cons {σ : Type} (env : Surroundings σ) (op : Operation) (ops : List Operation)
    (r : Run) (s : σ) :
    callsDuring env (op :: ops) r s =
      r.flightsOf env s op ++
        callsDuring env ops (r.perform env s op).2.1 (r.perform env s op).2.2 :=
  rfl

/-- What the replay of an operation has come to: it has returned the same, its run is beside the
one before, and just the answers that are left are still to be given. -/
structure Replayed {α σ : Type} (x : α × Run × List Asked) (left : List Asked) (y : α × Run × σ) :
    Prop where
  returned : y.1 = x.1
  beside : x.2.1.Beside y.2.1
  left : x.2.2 = left

/-- The end of a stage leaves the answers that are still to be given. -/
theorem finishStage_replaying (r : Run) (script : List Asked) :
    (r.finishStage .replaying script).2 = script := by
  unfold finishStage order
  cases r.nextTicket? <;> rfl

namespace Replayed

variable {σ : Type} {r r' : Run} (env : Surroundings σ) (left : List Asked)

/-- The replay of a step makes its call. -/
theorem step (h : r.Beside r') (s : σ) :
    Replayed (r.step .replaying ((r'.flight? env s).toList.map Flight.asked ++ left)) left
        (r'.step env s) ∧
      List.Forall₂ Flight.AgreesWith
        (r.flight? .replaying ((r'.flight? env s).toList.map Flight.asked ++ left)).toList
        (r'.flight? env s).toList := by
  rcases step_cases env r' s with ⟨hnext, hflight, hstep⟩ | ⟨hphase, hfile, hflight, hstep⟩ |
    ⟨stage, c, hphase, hc, ⟨s', hcall, hflight, hstep⟩ | ⟨answer, s', hcall, hflight, hstep⟩⟩
  · obtain ⟨hflight₀, hstep₀⟩ := step_of_nextStage?_eq_none .replaying
      (h.raised.phase ▸ hnext) left
    simp only [hflight, hstep, Option.toList_none, List.map_nil, List.nil_append, hflight₀, hstep₀]
    exact ⟨⟨rfl, h, rfl⟩, .nil⟩
  · obtain ⟨hflight₀, hstep₀⟩ := step_of_file_eq_none .replaying
      (h.raised.phase.symm.trans hphase) (h.raised.file.symm.trans hfile) left
    simp only [hflight, hstep, Option.toList_none, List.map_nil, List.nil_append, hflight₀, hstep₀]
    exact ⟨⟨rfl, h, rfl⟩, .nil⟩
  -- The call is made by both runs; its answer stands first among those that are still to be given.
  all_goals
    have hphase₀ := h.raised.phase.symm.trans hphase
    have hc₀ := (h.raised.request? stage).symm.trans hc
    have henter := h.enter hphase₀ hc₀
    rw [hflight, hstep]
  · obtain ⟨hflight₀, hstep₀⟩ := step_of_call_eq_none _ hphase₀ hc₀
      (Surroundings.call_replaying c (r.enter stage).published none left)
    change Replayed (r.step .replaying (⟨c, none⟩ :: left)) left _ ∧
      List.Forall₂ _ (r.flight? .replaying (⟨c, none⟩ :: left)).toList _
    rw [hflight₀, hstep₀]
    exact ⟨⟨rfl, henter, rfl⟩, .cons ⟨rfl, henter.raised⟩ .nil⟩
  · obtain ⟨hflight₀, hstep₀⟩ := step_of_call_eq_some _ hphase₀ hc₀
      (Surroundings.call_replaying c (r.enter stage).published (some answer) left)
    change Replayed (r.step .replaying (⟨c, some answer⟩ :: left)) left _ ∧
      List.Forall₂ _ (r.flight? .replaying (⟨c, some answer⟩ :: left)).toList _
    rw [hflight₀, hstep₀]
    refine ⟨⟨rfl, (henter.conclude rfl hc₀ answer).finishStage _ _ _ _, ?_⟩,
      .cons ⟨rfl, henter.raised⟩ .nil⟩
    exact finishStage_replaying _ _

/-- A step has its replay. -/
theorem exists_step (h : r.Beside r') {s s' : σ} {ending : Ending Bool} {r₁' : Run}
    (hstep : r'.step env s = (ending, r₁', s')) :
    ∃ r₁, r.step .replaying ((r'.flight? env s).toList.map Flight.asked ++ left) =
      (ending, r₁, left) ∧ r₁.Beside r₁' := by
  obtain ⟨⟨hreturned, hbeside, hleft⟩, -⟩ := step env left h s
  rw [hstep] at hreturned hbeside
  exact ⟨_, Prod.ext hreturned.symm (Prod.ext rfl hleft), hbeside⟩

/-- The replay of carrying out stages makes their calls. -/
theorem runStages (h : r.Beside r') (s : σ) :
    Replayed (r.runStages .replaying ((r'.flights env s).map Flight.asked ++ left)) left
        (r'.runStages env s) ∧
      List.Forall₂ Flight.AgreesWith
        (r.flights .replaying ((r'.flights env s).map Flight.asked ++ left))
        (r'.flights env s) := by
  induction r', s using runStages.induct env generalizing r with
  | case1 r' s r₁' s' hstep ih =>
    obtain ⟨-, hflight⟩ := step env ((r₁'.flights env s').map Flight.asked ++ left) h s
    obtain ⟨r₁, hstep₀, hbeside⟩ :=
      exists_step env ((r₁'.flights env s').map Flight.asked ++ left) h hstep
    obtain ⟨hreplayed, hflights⟩ := ih hbeside
    rw [flights_eq env r', runStages_eq env r', hstep]
    simp only [List.map_append, List.append_assoc]
    rw [runStages_eq .replaying r, flights_eq .replaying r, hstep₀]
    exact ⟨hreplayed, List.rel_append hflight hflights⟩
  | case2 r' s r₁' s' hstep =>
    obtain ⟨-, hflight⟩ := step env left h s
    obtain ⟨r₁, hstep₀, hbeside⟩ := exists_step env left h hstep
    rw [flights_eq env r', runStages_eq env r', hstep, List.append_nil, runStages_eq .replaying r,
      flights_eq .replaying r, hstep₀, List.append_nil]
    exact ⟨⟨congrArg Ending.done hbeside.raised.phase, hbeside, rfl⟩, hflight⟩
  | case3 r' s e r₁' s' hstep | case4 r' s r₁' s' hstep =>
    obtain ⟨-, hflight⟩ := step env left h s
    obtain ⟨r₁, hstep₀, hbeside⟩ := exists_step env left h hstep
    rw [flights_eq env r', runStages_eq env r', hstep, List.append_nil, runStages_eq .replaying r,
      flights_eq .replaying r, hstep₀, List.append_nil]
    exact ⟨⟨rfl, hbeside, rfl⟩, hflight⟩

/-- The replay of an operation makes its calls. -/
theorem perform (h : r.Beside r') (s : σ) (op : Operation) :
    Replayed (r.perform .replaying ((r'.flightsOf env s op).map Flight.asked ++ left) op) left
        (r'.perform env s op) ∧
      List.Forall₂ Flight.AgreesWith
        (r.flightsOf .replaying ((r'.flightsOf env s op).map Flight.asked ++ left) op)
        (r'.flightsOf env s op) := by
  cases op with
  | stageFile file =>
    exact ⟨⟨congrArg Outcome.staged (h.raised.stageFile_reply file), h.stageFile file, rfl⟩, .nil⟩
  | clear => exact ⟨⟨rfl, h.clear, rfl⟩, .nil⟩
  | settle => exact ⟨⟨rfl, h.settle _ _ _ _, rfl⟩, .nil⟩
  | step =>
    obtain ⟨⟨hreturned, hbeside, hleft⟩, hflight⟩ := step env left h s
    exact ⟨⟨congrArg Outcome.stepped hreturned, hbeside, hleft⟩, hflight⟩
  | start =>
    simp only [Run.perform, flightsOf, start_eq, h.raised.phase]
    split
    · obtain ⟨⟨hreturned, hbeside, hleft⟩, hflights⟩ := runStages env left h.resume s
      exact ⟨⟨congrArg Outcome.started hreturned, hbeside, hleft⟩, hflights⟩
    · exact ⟨⟨rfl, h, rfl⟩, .nil⟩

end Replayed

section Replaying

variable {σ : Type} {env : Surroundings σ} {r r' : Run}

/-- A history agrees with its replay. -/
theorem history_replayed (h : r.Beside r') (ops : List Operation) (s : σ) :
    List.Forall₂ Entry.AgreesWith
      (history .replaying ops r ((callsDuring env ops r' s).map Flight.asked))
      (history env ops r' s) := by
  induction ops generalizing r r' s with
  | nil => exact .nil
  | cons op ops ih =>
    rw [callsDuring_cons, List.map_append]
    obtain ⟨⟨hreturned, hbeside, hleft⟩, hflights⟩ := Replayed.perform env _ h s op
    refine .cons ⟨rfl, hflights, hreturned, hbeside.raised⟩ ?_
    rw [hleft]
    exact ih hbeside _

/-- Operations keep a run beside its replay. -/
theorem operate_replayed (h : r.Beside r') (ops : List Operation) (s : σ) :
    (operate .replaying ops r ((callsDuring env ops r' s).map Flight.asked)).1.Beside
      (operate env ops r' s).1 := by
  induction ops generalizing r r' s with
  | nil => exact h
  | cons op ops ih =>
    rw [callsDuring_cons, List.map_append, operate, operate]
    obtain ⟨⟨-, hbeside, hleft⟩, -⟩ := Replayed.perform env _ h s op
    rw [hleft]
    exact ih hbeside _

/-- The stage calls of operations agree with those of their replay. -/
theorem callsDuring_replayed (h : r.Beside r') (ops : List Operation) (s : σ) :
    List.Forall₂ Flight.AgreesWith
      (callsDuring .replaying ops r ((callsDuring env ops r' s).map Flight.asked))
      (callsDuring env ops r' s) := by
  have hhistory : List.Forall₂ Entry.AgreesWith _ (history env ops r' s) := history_replayed h ops s
  exact List.rel_flatMap hhistory fun e e' he => he.flights

end Replaying

end Run

end CsvCleaning
