import CsvCleaning.Proofs.Run.Tally
import CsvCleaning.Run.Persist

/-!
# Starting again after failures

The starts of a run that is persisted with, with every stage call kept. If every call is answered,
a start ends with the run ready and no failed call, or at a failed stage and with one. A start after
a failure goes on where the one before stopped, so what the calls of all starts come to is put
together, and the number of failed calls decides whether the run becomes ready.
-/

namespace CsvCleaning

/-- Unless a run is ready, at most three of its stages are complete. -/
theorem Phase.completed_lt_of_ne_ready {phase : Phase} (h : phase ≠ .ready) :
    phase.completed < 4 := by
  cases phase with
  | ready => exact absurd rfl h
  | failed stage message => exact stage.index_lt
  | _ => decide

namespace Run

/-- Calls of earlier starts do not matter to a run that has settled. -/
theorem SettledAfter.prepend {r : Run} {calls : List Flight} (h : r.SettledAfter calls)
    (before : List Flight) : r.SettledAfter (before ++ calls) := by
  induction before with
  | nil => exact h
  | cons f before ih => exact ih.cons f

/-- What the calls of one start or several come to: the run has settled, what is returned is its
phase, and it is ready or there are `n` failures. -/
structure Tried {σ : Type} (n : Nat) (r : Run) (calls : List Flight) (x : Ending Phase × Run × σ) :
    Prop where
  returned : x.1 = .done x.2.1.phase
  settled : x.2.1.SettledAfter calls
  tally : Tally r calls x.2.1
  failures_of_ne_ready : x.2.1.phase ≠ .ready → failures calls = n
  failures_of_ready : x.2.1.phase = .ready → failures calls < n

section Starting

variable {σ : Type} (env : Surroundings σ)

/-- Operations in a row. -/
theorem operate_append (ops ops' : List Operation) (r : Run) (s : σ) :
    operate env (ops ++ ops') r s =
      operate env ops' (operate env ops r s).1 (operate env ops r s).2 := by
  induction ops generalizing r s with
  | nil => rfl
  | cons op ops ih => exact ih _ _

/-- The stage calls of each start, of a run that is started again after each failed stage,
`retries` times at most. -/
def attempts : Nat → Run → σ → List (List Flight)
  | 0, r, s => [r.flightsOf env s .start]
  | retries + 1, r, s =>
    r.flightsOf env s .start ::
      match r.start env s with
      | (.done (.failed _ _), r, s) => attempts retries r s
      | _ => []

/-- A run is started once, and at most `retries` times again. -/
theorem length_attempts_le (retries : Nat) (r : Run) (s : σ) :
    (attempts env retries r s).length ≤ retries + 1 := by
  induction retries generalizing r s with
  | zero => exact Nat.le_refl 1
  | succ retries ih =>
    rw [attempts, List.length_cons]
    split
    · exact Nat.succ_le_succ (ih _ _)
    · exact Nat.le_add_left 1 _

/-- Persisting is starting, as often as there are attempts. -/
theorem persist_eq_operate (retries : Nat) (r : Run) (s : σ) :
    (persist env retries r s).2 =
      operate env (.replicate (attempts env retries r s).length .start) r s := by
  induction retries generalizing r s with
  | zero => rfl
  | succ retries ih =>
    rw [persist, attempts, List.length_cons, List.replicate_succ, operate, perform]
    rcases r.start env s with ⟨_ | f | _, r', s'⟩
    · rename_i phase
      cases phase with
      | failed stage message => exact ih r' s'
      | _ => rfl
    · rfl
    · rfl

/-- The attempts are the stage calls of these starts. -/
theorem attempts_eq_map_history (retries : Nat) (r : Run) (s : σ) :
    attempts env retries r s =
      (history env (.replicate (attempts env retries r s).length .start) r s).map (·.flights) := by
  induction retries generalizing r s with
  | zero => rfl
  | succ retries ih =>
    rw [attempts, List.length_cons, List.replicate_succ, history, List.map_cons, entry, perform]
    congr 1
    rcases r.start env s with ⟨_ | f | _, r', s'⟩
    · rename_i phase
      cases phase with
      | failed stage message => exact ih r' s'
      | _ => rfl
    · rfl
    · rfl

/-- The attempts are what persisting asks its surroundings, in this order. -/
theorem persist_logged (retries : Nat) (r : Run) (s : σ) (log : List Asked) :
    persist env.logged retries r (s, log) =
      ((persist env retries r s).1, (persist env retries r s).2.1, (persist env retries r s).2.2,
        log ++ (attempts env retries r s).flatten.map Flight.asked) := by
  have hstart (r : Run) (s : σ) (log : List Asked) : r.start env.logged (s, log) =
      ((r.start env s).1, (r.start env s).2.1, (r.start env s).2.2,
        log ++ (r.flightsOf env s .start).map Flight.asked) := by
    have hlogged := perform_logged env r s log .start
    simp only [perform, Prod.mk.injEq, Outcome.started.injEq] at hlogged
    exact Prod.ext hlogged.1 hlogged.2
  induction retries generalizing r s log with
  | zero => simpa [persist, attempts] using hstart r s log
  | succ retries ih =>
    rw [persist, persist, attempts, hstart]
    rcases r.start env s with ⟨_ | f | _, r', s'⟩
    · rename_i phase
      cases phase with
      | failed stage message => simp [ih]
      | _ => simp
    · simp
    · simp

variable (hanswers : ∀ c seen s, (env.call c seen s).1.isSome)
include hanswers

/-- If calls are answered, one of them fails until no stage comes next, or the run is ready and none
does. -/
theorem Sound.failures_runStages {r : Run} (h : r.Sound) {stage : Stage} {c : Call}
    (hphase : r.phase = stage.resumePhase) (hc : r.request? stage = some c) (s : σ) :
    failures (r.flights env s) =
      if (r.runStages env s).2.1.phase = .ready then 0 else 1 := by
  induction r, s using runStages.induct env generalizing stage c with
  | case1 r s r₁ s₁ hstep ih =>
    obtain ⟨f, r', s', hflight, hstep', -, hsound, hcases⟩ :=
      h.step_of_answers env hanswers hphase hc s
    cases hstep.symm.trans hstep'
    obtain ⟨hrun, hflights⟩ := runStages_of_step env hflight hstep
    have htally : Tally r [f] r₁ := by
      have hfirst := h.tally_step env s
      rwa [hflight, hstep] at hfirst
    have hone := length_acceptedStages_add_failures [f]
    rw [hrun, hflights, ← List.singleton_append, failures_append]
    rcases hcases with ⟨e, hfailure, hfailed⟩ | hdone
    · obtain ⟨hend, hnone⟩ := runStages_of_nextStage?_eq_none env (by rw [hfailed]; rfl) s₁
      rw [hend, hnone, if_neg (by simp [hfailed])]
      simp [failures, Flight.isAccepted_of_failure? hfailure]
    · have haccepted : failures [f] = 0 := by
        rw [htally.length_acceptedStages, hdone, hphase, Stage.completed_donePhase,
          Stage.completed_resumePhase, List.length_singleton] at hone
        omega
      rw [haccepted, Nat.zero_add]
      rcases stage.donePhase_cases with hready | ⟨next, hnext, hindex⟩
      · obtain ⟨hend, hnone⟩ := runStages_of_nextStage?_eq_none env (by rw [hdone, hready]; rfl) s₁
        rw [hend, hnone, if_pos (hdone.trans hready)]
        rfl
      · obtain ⟨c', hc'⟩ : ∃ c', r₁.request? next = some c' := by
          cases next with
          | upload => cases hindex
          | _ => exact ⟨_, rfl⟩
        exact ih hsound (hdone.trans hnext) hc'
  | case2 r s r₁ s₁ hstep | case3 r s e r₁ s₁ hstep | case4 r s r₁ s₁ hstep =>
    obtain ⟨f, r', s', -, hstep', -⟩ := h.step_of_answers env hanswers hphase hc s
    cases hstep.symm.trans hstep'

/-- If calls are answered, a start comes to an end with one failure, or with a ready run. -/
theorem Sound.tried_start {r : Run} (h : r.Sound) {stage : Stage} (hstage : r.StartsAt stage)
    (s : σ) : Tried 1 r (r.flightsOf env s .start) (r.start env s) := by
  obtain ⟨hstart, hsound, hphase, c, hc⟩ := h.resume_of_startsAt hstage
  have hsettles := hsound.runStages_settles env hanswers hphase hc s
  have hfailures := hsound.failures_runStages env hanswers hphase hc s
  have htally := h.tally_start env s
  rw [start_eq, flightsOf, hstart, if_pos rfl, if_pos rfl] at htally ⊢
  exact ⟨hsettles.returned, hsettles.settled, htally, fun hphase => by rw [hfailures, if_neg hphase],
    fun hphase => by simp [hfailures, hphase]⟩

/-- If calls are answered, a run that is persisted with becomes ready, or fails at every start. -/
theorem Sound.tried_persist {r : Run} (h : r.Sound) {stage : Stage} (hstage : r.StartsAt stage)
    (retries : Nat) (s : σ) :
    Tried (retries + 1) r (attempts env retries r s).flatten (persist env retries r s) := by
  -- The induction is on the retries. A start after a failure begins at the failed stage with a
  -- sound run, and the failure before it is one of those that are allowed.
  induction retries generalizing r stage s with
  | zero =>
    have hfirst := h.tried_start env hanswers hstage s
    rwa [attempts, List.flatten_singleton, persist]
  | succ retries ih =>
    have hfirst := h.tried_start env hanswers hstage s
    have hsound : (r.start env s).2.1.Sound := ((Path.perform env r s .start).sound h).1
    rw [attempts, persist]
    rcases hrun : r.start env s with ⟨ending, r', s'⟩
    rw [hrun] at hfirst hsound
    obtain rfl : ending = .done r'.phase := hfirst.returned
    rcases hfirst.settled with hready | ⟨stage', message, hfailed, -⟩
    · have hnone : failures (r.flightsOf env s .start) < 1 := hfirst.failures_of_ready hready
      dsimp only at hready
      rw [hready]
      refine ⟨congrArg Ending.done hready.symm, .inl hready, ?_, fun hphase => absurd hready hphase,
        fun _ => ?_⟩
      · simpa using hfirst.tally
      · simp only [List.flatten_cons, List.flatten_nil, List.append_nil]
        omega
    · have hone : failures (r.flightsOf env s .start) = 1 :=
        hfirst.failures_of_ne_ready (by rw [hfailed]; simp)
      have hrest := ih hsound (.inr ⟨message, hfailed⟩) s'
      dsimp only at hfailed
      rw [hfailed]
      dsimp only at hrest ⊢
      rw [List.flatten_cons]
      refine ⟨hrest.returned, hrest.settled.prepend _, hfirst.tally.append hrest.tally,
        fun hphase => ?_, fun hphase => ?_⟩
      · rw [failures_append, hone, hrest.failures_of_ne_ready hphase]
        omega
      · have hless := hrest.failures_of_ready hphase
        rw [failures_append, hone]
        omega

end Starting

/-- What becomes of a run that is started at most `retries` times again, with the stage calls of
each start. -/
structure Persisted (retries : Nat) (starts : List (List Flight)) (r : Run) : Prop where
  starts_le : starts.length ≤ retries + 1
  calls_le : starts.flatten.length ≤ 4 + retries
  /-- No stage is carried out by two accepted calls; an upload is one of them. -/
  accepted_le : ∀ stage : Stage,
    starts.flatten.countP (fun f => f.call.stage? == some stage && f.isAccepted) ≤ 1
  /-- However the outcomes would go on after the calls that are made, the run is ready exactly if
  the fourth accepted one comes before the failed one after the last retry. -/
  ready_iff : ∀ outcomes : Nat → Bool,
    starts.flatten.map Flight.isAccepted = (List.range starts.flatten.length).map outcomes →
      (r.phase = .ready ↔ ∃ n, (List.range n).countP outcomes = 4 ∧
        (List.range n).countP (!outcomes ·) ≤ retries)
  /-- A run that is not ready has failed as often as it may, the last time as it is told. -/
  stopped : r.phase ≠ .ready →
    failures starts.flatten = retries + 1 ∧
      ∃ stage e f, starts.flatten.getLast? = some f ∧ f.call.stage? = some stage ∧
        f.failure? = some e ∧ r.phase = .failed stage e.userMessage
  /-- A run that is ready has the table that an accepted call was answered with. -/
  result : r.phase = .ready →
    ∃ table, r.result = some table ∧ ∃ f ∈ starts.flatten, f.Accepted ∧
      ∃ fileId, f.asked = ⟨.result fileId, some (.ok table)⟩

/-- Refreshes that come back afterwards change nothing of this. -/
theorem Persisted.raise {retries : Nat} {starts : List (List Flight)} {r r' : Run}
    (h : Persisted retries starts r) (hr : r.RaisedTo r') : Persisted retries starts r' where
  starts_le := h.starts_le
  calls_le := h.calls_le
  accepted_le := h.accepted_le
  ready_iff := by
    rw [hr.phase]
    exact h.ready_iff
  stopped := by
    rw [hr.phase]
    exact h.stopped
  result := by
    rw [hr.phase, hr.result]
    exact h.result

/-- Outcomes of which the first ones are those of the calls: as many of these are accepted, and as
many fail, as calls are and do. -/
theorem countP_range_of_outcomes {calls : List Flight} {outcomes : Nat → Bool}
    (h : calls.map Flight.isAccepted = (List.range calls.length).map outcomes) :
    (List.range calls.length).countP outcomes = (acceptedStages calls).length ∧
      (List.range calls.length).countP (!outcomes ·) = failures calls := by
  have haccepted := congrArg (List.countP fun b => b) h
  have hfailed := congrArg (List.countP not) h
  rw [List.countP_map, List.countP_map] at haccepted hfailed
  constructor
  · rw [acceptedStages, List.length_map, ← List.countP_eq_length_filter]
    exact haccepted.symm
  · exact hfailed.symm

namespace Tried

variable {σ : Type} {retries : Nat} {r : Run} {calls : List Flight} {x : Ending Phase × Run × σ}

/-- A run that begins with no stage complete becomes ready exactly if four calls are accepted before
too many have failed. -/
theorem ready_iff (h : Tried (retries + 1) r calls x) (hbegun : r.phase.completed = 0)
    {outcomes : Nat → Bool}
    (houtcomes : calls.map Flight.isAccepted = (List.range calls.length).map outcomes) :
    x.2.1.phase = .ready ↔ ∃ n, (List.range n).countP outcomes = 4 ∧
      (List.range n).countP (!outcomes ·) ≤ retries := by
  obtain ⟨haccepted, hfailed⟩ := countP_range_of_outcomes houtcomes
  rw [h.tally.length_acceptedStages, hbegun, Nat.sub_zero] at haccepted
  constructor
  · intro hready
    have hless := h.failures_of_ready hready
    refine ⟨calls.length, ?_, by omega⟩
    rw [haccepted, hready]
    rfl
  · rintro ⟨n, hfour, hle⟩
    by_contra hready
    have hmany := h.failures_of_ne_ready hready
    have hfew := Phase.completed_lt_of_ne_ready hready
    -- The calls end before the fourth accepted outcome, and with one failure too many.
    rcases Nat.le_total n calls.length with hn | hn
    · have hmono := List.Sublist.countP_le (p := outcomes) (List.range_sublist.mpr hn)
      omega
    · have hmono := List.Sublist.countP_le (p := (!outcomes ·)) (List.range_sublist.mpr hn)
      omega

/-- What becomes of a run that begins with no stage complete. -/
theorem persisted {starts : List (List Flight)} (h : Tried (retries + 1) r starts.flatten x)
    (hbegun : r.phase.completed = 0) (hnone : r.result = none) (hsound : x.2.1.Sound)
    (hstarts : starts.length ≤ retries + 1) : Persisted retries starts x.2.1 where
  starts_le := hstarts
  calls_le := by
    have hlength := length_acceptedStages_add_failures starts.flatten
    rw [h.tally.length_acceptedStages, hbegun, Nat.sub_zero] at hlength
    by_cases hready : x.2.1.phase = .ready
    · have hless := h.failures_of_ready hready
      have hfour : x.2.1.phase.completed = 4 := by rw [hready]; rfl
      omega
    · have hmany := h.failures_of_ne_ready hready
      have hfew := Phase.completed_lt_of_ne_ready hready
      omega
  accepted_le := h.tally.countP_accepted_le_one
  ready_iff := fun _ houtcomes => h.ready_iff hbegun houtcomes
  stopped := fun hready => by
    refine ⟨h.failures_of_ne_ready hready, ?_⟩
    rcases h.settled with hphase | ⟨stage, message, hphase, f, hlast, hstage, e, hfailure, rfl⟩
    · exact absurd hphase hready
    · exact ⟨stage, e, f, hlast, hstage, hfailure, hphase⟩
  result := fun hready => by
    obtain ⟨table, htable⟩ := Option.isSome_iff_exists.mp (hsound.result.mpr hready)
    rcases h.tally.result table htable with hbefore | hanswered
    · rw [hnone] at hbefore
      cases hbefore
    · exact ⟨table, htable, hanswered⟩

end Tried

end Run

end CsvCleaning
