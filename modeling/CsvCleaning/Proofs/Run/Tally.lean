import CsvCleaning.Proofs.Run.Settlement
import Mathlib.Data.List.Nodup

/-!
# Accepted and failed calls

What the stage calls come to between two moments of one run. The accepted ones are one call of each
stage that is complete at the end but was not at the beginning, in order, so none is accepted twice;
all others failed, and a start that is brought to its end makes one such call unless the run is
ready.
-/

namespace CsvCleaning

namespace Flight

/-- Decide whether a stage call is accepted. -/
def isAccepted (f : Flight) : Bool :=
  match f.answer with
  | some (.ok reply) => (f.call.refusal? reply).isNone
  | some (.error _) | none => false

/-- A stage call is accepted if the service answered with success and no check refuses the reply. -/
theorem isAccepted_iff {f : Flight} : f.isAccepted = true ↔ f.Accepted := by
  obtain ⟨r, c, answer⟩ := f
  rcases answer with _ | e | reply
  · simp [isAccepted, Accepted]
  · simp [isAccepted, Accepted]
  · simp [isAccepted, Accepted]

/-- A stage call that ends with a failure is not accepted. -/
theorem isAccepted_of_failure? {f : Flight} {e : Failure} (h : f.failure? = some e) :
    f.isAccepted = false :=
  Bool.eq_false_iff.mpr fun accepted => not_accepted_of_failure? h (isAccepted_iff.mp accepted)

end Flight

namespace Run

/-- The places of the stages whose calls are accepted, in order. -/
def acceptedStages (calls : List Flight) : List (Option Nat) :=
  (calls.filter Flight.isAccepted).map fun f => f.call.stage?.map Stage.index

/-- How many calls are not accepted. -/
def failures (calls : List Flight) : Nat :=
  calls.countP (!·.isAccepted)

/-- What calls come to from one moment of a run to another. -/
structure Tally (r : Run) (calls : List Flight) (r' : Run) : Prop where
  forward : r.phase.completed ≤ r'.phase.completed
  stages : acceptedStages calls =
    (List.range' r.phase.completed (r'.phase.completed - r.phase.completed)).map some
  /-- A result that was not there before is the reply to an accepted call. -/
  result : ∀ table ∈ r'.result, table ∈ r.result ∨
    ∃ f ∈ calls, f.Accepted ∧ ∃ fileId, f.asked = ⟨.result fileId, some (.ok table)⟩

/-- Accepted stages of calls in a row. -/
theorem acceptedStages_append (calls calls' : List Flight) :
    acceptedStages (calls ++ calls') = acceptedStages calls ++ acceptedStages calls' := by
  simp [acceptedStages]

/-- Failures of calls in a row. -/
theorem failures_append (calls calls' : List Flight) :
    failures (calls ++ calls') = failures calls + failures calls' :=
  List.countP_append

/-- Every call is accepted or fails. -/
theorem length_acceptedStages_add_failures (calls : List Flight) :
    (acceptedStages calls).length + failures calls = calls.length := by
  rw [acceptedStages, List.length_map, ← List.countP_eq_length_filter, failures,
    List.length_eq_countP_add_countP Flight.isAccepted]
  simp

namespace Tally

variable {r r' r'' : Run} {calls calls' : List Flight}

/-- Without calls, a run that has as many complete stages and the same result has nothing to
count. -/
theorem of_eq (hcompleted : r'.phase.completed = r.phase.completed)
    (hresult : r'.result = r.result) : Tally r [] r' where
  forward := Nat.le_of_eq hcompleted.symm
  stages := by simp [hcompleted, acceptedStages]
  result := fun table htable => .inl (hresult ▸ htable)

/-- Counts of calls in a row are put together. -/
theorem append (h : Tally r calls r') (h' : Tally r' calls' r'') : Tally r (calls ++ calls') r'' where
  forward := Nat.le_trans h.forward h'.forward
  stages := by
    have hforward := h.forward
    have hforward' := h'.forward
    rw [acceptedStages_append, h.stages, h'.stages, ← List.map_append]
    congr 1
    calc
      _ = List.range' r.phase.completed (r'.phase.completed - r.phase.completed) ++
          List.range' (r.phase.completed + (r'.phase.completed - r.phase.completed))
            (r''.phase.completed - r'.phase.completed) := by
        rw [Nat.add_sub_cancel' hforward]
      _ = List.range' r.phase.completed ((r'.phase.completed - r.phase.completed) +
            (r''.phase.completed - r'.phase.completed)) := List.range'_append_1
      _ = _ := by
        congr 1
        omega
  result := fun table htable => by
    rcases h'.result table htable with hbefore | ⟨f, hf, hreplied⟩
    · rcases h.result table hbefore with hfirst | ⟨f, hf, hreplied⟩
      · exact .inl hfirst
      · exact .inr ⟨f, List.mem_append_left _ hf, hreplied⟩
    · exact .inr ⟨f, List.mem_append_right _ hf, hreplied⟩

/-- As many calls are accepted as stages become complete. -/
theorem length_acceptedStages (h : Tally r calls r') :
    (acceptedStages calls).length = r'.phase.completed - r.phase.completed := by
  rw [h.stages, List.length_map, List.length_range']

/-- A stage is carried out by one accepted call at most. -/
theorem countP_accepted_le_one (h : Tally r calls r') (stage : Stage) :
    calls.countP (fun f => f.call.stage? == some stage && f.isAccepted) ≤ 1 := by
  have hnodup : (acceptedStages calls).Nodup := by
    rw [h.stages]
    exact List.Nodup.map (Option.some_injective _) List.nodup_range'
  calc
    _ = (acceptedStages calls).count (some stage.index) := by
      rw [acceptedStages, List.count, List.countP_map, List.countP_filter]
      congr 1
      funext f
      dsimp only [Function.comp]
      rcases f.call.stage? with _ | next
      · rfl
      · simp [Bool.beq_eq_decide_eq, Stage.index_inj]
    _ ≤ 1 := List.nodup_iff_count_le_one.mp hnodup _

/-- Raising a run counts for nothing. -/
theorem raise (h : Tally r calls r') (hr : r'.RaisedTo r'') : Tally r calls r'' := by
  have htally : Tally r (calls ++ []) r'' := h.append (.of_eq (by rw [hr.phase]) hr.result)
  rwa [List.append_nil] at htally

/-- Resuming a failed run counts for nothing. -/
theorem resume (r : Run) : Tally r [] r.resume := by
  cases hphase : r.phase with
  | failed stage message =>
    rw [resume_of_failed hphase]
    exact .of_eq (by rw [hphase, Stage.completed_resumePhase]; rfl) rfl
  | _ =>
    rw [resume_of_failedStage?_eq_none (by rw [hphase]; rfl)]
    exact .of_eq rfl rfl

/-- A call that is given up is not accepted. -/
theorem abandon {stage : Stage} {c : Call} (hphase : r.phase = stage.resumePhase) :
    Tally r [⟨r.enter stage, c, none⟩] (r.enter stage) where
  forward := by
    rw [hphase, Stage.completed_resumePhase]
    exact Nat.le_of_eq (Stage.completed_busyPhase stage).symm
  stages := by
    have hcompleted : (r.enter stage).phase.completed = r.phase.completed := by
      rw [hphase, Stage.completed_resumePhase]
      exact Stage.completed_busyPhase stage
    simp [hcompleted, acceptedStages, Flight.isAccepted]
  result := fun table htable => .inl htable

/-- The answer to a call is accepted, and one more stage is complete, or it fails. -/
theorem answer (h : r.Sound) {stage : Stage} {c : Call} (hphase : r.phase = stage.resumePhase)
    (hc : r.request? stage = some c) (answer : Answer c) :
    Tally r [⟨r.enter stage, c, some answer⟩] ((r.enter stage).conclude stage c answer) := by
  have hn : r.phase.completed = stage.index := by rw [hphase, Stage.completed_resumePhase]
  have hstage : c.stage? = some stage := stage?_of_request? hc
  rcases (h.enter hphase hc).conclude_cases rfl hc answer with
    ⟨e, hfailure, hconclude⟩ | ⟨reply, rfl, hreply, hadvance⟩
  · rw [hconclude]
    have hcompleted : ((r.enter stage).fail stage e).phase.completed = r.phase.completed := hn.symm
    refine ⟨Nat.le_of_eq hcompleted.symm, ?_, fun table htable => .inl htable⟩
    simp [hcompleted, acceptedStages, Flight.isAccepted_of_failure? hfailure]
  · have hcompleted :
        ((r.enter stage).conclude stage c (.ok reply)).phase.completed = stage.index + 1 := by
      rw [hadvance.phase, Stage.completed_donePhase]
    have haccepted : (Flight.mk (r.enter stage) c (some (.ok reply))).Accepted := ⟨reply, rfl, hreply⟩
    refine ⟨by omega, ?_, ?_⟩
    · simp [hcompleted, hn, acceptedStages, Flight.isAccepted_iff.mpr haccepted, hstage]
    · generalize (r.enter stage).conclude stage c (.ok reply) = r' at hadvance ⊢
      cases hadvance with
      | upload | process | execute => exact fun table htable => .inl htable
      | result fileId table a hid ha =>
        rintro _ ⟨⟩
        exact .inr ⟨_, List.mem_singleton_self _, haccepted, fileId, rfl⟩

end Tally

section Counting

variable {σ : Type} (env : Surroundings σ)

/-- What the call of a step comes to. -/
theorem Sound.tally_step {r : Run} (h : r.Sound) (s : σ) :
    Tally r (r.flight? env s).toList (r.step env s).2.1 := by
  rcases step_cases env r s with ⟨-, hflight, hstep⟩ | ⟨-, -, hflight, hstep⟩ |
    ⟨stage, c, hphase, hc, ⟨s', -, hflight, hstep⟩ | ⟨answer, s', -, hflight, hstep⟩⟩
  · rw [hflight, hstep]
    exact .of_eq rfl rfl
  · rw [hflight, hstep]
    exact .of_eq rfl rfl
  · rw [hflight, hstep]
    exact .abandon hphase
  · rw [hflight, hstep]
    exact (Tally.answer h hphase hc answer).raise (.finishStage env _ s')

/-- What the calls come to that are made until no stage comes next. -/
theorem Sound.tally_runStages {r : Run} (h : r.Sound) (s : σ) :
    Tally r (r.flights env s) (r.runStages env s).2.1 := by
  induction r, s using runStages.induct env with
  | case1 r s r' s' hstep ih =>
    have hfirst := h.tally_step env s
    have hsound := ((Path.step env r s).sound h).1
    rw [hstep] at hfirst hsound
    rw [runStages_eq, flights_eq, hstep]
    exact hfirst.append (ih hsound)
  | case2 r s r' s' hstep | case3 r s f r' s' hstep | case4 r s r' s' hstep =>
    have hfirst := h.tally_step env s
    rw [hstep] at hfirst
    rw [runStages_eq, flights_eq, hstep, List.append_nil]
    exact hfirst

/-- What the calls of a start come to. -/
theorem Sound.tally_start {r : Run} (h : r.Sound) (s : σ) :
    Tally r (r.flightsOf env s .start) (r.start env s).2.1 := by
  rw [flightsOf, start_eq]
  split
  · have hsound : r.resume.Sound := ((Path.resume r).sound h).1
    exact (Tally.resume r).append (hsound.tally_runStages env s)
  · exact .of_eq rfl rfl

end Counting

end Run

end CsvCleaning
