import CsvCleaning.Proofs.Run.Lockstep
import CsvCleaning.Proofs.Run.Orders

/-!
# Which refreshes are ordered

A run that orders refreshes orders one after each stage call that was answered and leaves a record,
and no other. So the orders can be read off the stage calls, and runs that go side by side order
refreshes alike.
-/

namespace CsvCleaning

/-- The record that an answered stage call leaves. -/
def Flight.left? (f : Flight) : Option Record := do
  let stage ← f.call.stage?
  let answer ← f.answer
  (f.run.conclude stage f.call answer).record

/-- The number of the run and the file id that a stage call leaves a record of. -/
def Flight.leaves? (f : Flight) : Option (Nat × String) :=
  f.left?.map fun a => (f.run.id, a.fileId)

/-- The refresh that is ordered after a stage call. -/
def Flight.ticket? (f : Flight) : Option Ticket :=
  f.left?.map fun a => ⟨f.run.ordered, f.run.id, a.fileId⟩

/-- Apart from its own number, a refresh is about the run and the file that the call leaves. -/
theorem Flight.map_filterMap_ticket? (flights : List Flight) :
    (flights.filterMap ticket?).map (fun ticket => (ticket.run, ticket.fileId)) =
      flights.filterMap leaves? := by
  rw [List.map_filterMap]
  refine List.filterMap_congr fun f _ => ?_
  simp [ticket?, leaves?, Function.comp_def]

namespace Run

/-- A call that a run waits for: it is sound, in the stage of the call, and makes this call. -/
structure Waits (f : Flight) (stage : Stage) : Prop where
  sound : f.run.Sound
  phase : f.run.phase = stage.busyPhase
  request : f.run.request? stage = some f.call

/-- A call that is given up leaves no record. -/
theorem left?_of_abandoned (r : Run) (c : Call) : (Flight.mk r c none).left? = none := by
  cases c <;> rfl

/-- What an answered call leaves is the record after the answer was taken. -/
theorem left?_of_answered {r : Run} {stage : Stage} {c : Call} (hc : r.request? stage = some c)
    (answer : Answer c) :
    (Flight.mk r c (some answer)).left? = (r.conclude stage c answer).record := by
  simp [Flight.left?, stage?_of_request? hc]

/-- An answer leaves alone what is to be ordered. -/
theorem Sound.conclude_refreshes {r : Run} (h : r.Sound) {stage : Stage} {c : Call}
    (hphase : r.phase = stage.busyPhase) (hc : r.request? stage = some c) (answer : Answer c) :
    (r.conclude stage c answer).id = r.id ∧ (r.conclude stage c answer).ordered = r.ordered ∧
      (r.conclude stage c answer).refreshing = r.refreshing := by
  rcases h.conclude_cases hphase hc answer with ⟨e, -, hfail⟩ | ⟨_, -, -, hadvance⟩
  · rw [hfail]
    exact ⟨rfl, rfl, rfl⟩
  · obtain ⟨hid, hordered, hrefreshing, -⟩ := hadvance.refreshes
    exact ⟨hid, hordered, hrefreshing⟩

section Orders

variable {σ : Type} (env : Surroundings σ)

/-- The end of a stage orders the next refresh. -/
theorem orders_finishStage (r : Run) (t : σ × RefreshLog) :
    (r.finishStage env.noted t).2.2.orders = t.2.orders ++ r.nextTicket?.toList := by
  unfold finishStage order
  cases r.nextTicket? with
  | none => exact (List.append_nil _).symm
  | some ticket => rfl

/-- A step orders the refresh of its stage call. -/
theorem orders_step {r : Run} (h : r.Sound) (hrefreshing : r.refreshing = true)
    (t : σ × RefreshLog) :
    (r.step env.noted t).2.2.2.orders =
      t.2.orders ++ (r.flight? env.noted t).toList.filterMap Flight.ticket? := by
  rcases step_cases env.noted r t with ⟨-, hflight, hstep⟩ | ⟨-, -, hflight, hstep⟩ |
    ⟨stage, c, hphase, hc, ⟨t', hcall, hflight, hstep⟩ | ⟨answer, t', hcall, hflight, hstep⟩⟩
  · simp [hstep, hflight]
  · simp [hstep, hflight]
  · obtain rfl : (_, _) = t' := (Prod.mk.inj hcall).2
    simp [hstep, hflight, Flight.ticket?, left?_of_abandoned]
  · obtain rfl : (_, _) = t' := (Prod.mk.inj hcall).2
    have hc' : (r.enter stage).request? stage = some c := by rw [request?_enter, hc]
    obtain ⟨hid, hordered, hrefreshing'⟩ :=
      (h.enter hphase hc).conclude_refreshes rfl hc' answer
    have hnext : ((r.enter stage).conclude stage c answer).nextTicket? =
        (Flight.mk (r.enter stage) c (some answer)).ticket? := by
      rw [nextTicket?, hrefreshing', hid, hordered, Flight.ticket?, left?_of_answered hc']
      exact if_pos hrefreshing
    rw [hstep, hflight, orders_finishStage, hnext]
    cases hticket : (Flight.mk (r.enter stage) c (some answer)).ticket? <;> simp [hticket]

/-- Carrying out stages orders the refreshes of the calls, in their order. -/
theorem orders_runStages {r : Run} (h : r.Sound) (hrefreshing : r.refreshing = true)
    (t : σ × RefreshLog) :
    (r.runStages env.noted t).2.2.2.orders =
      t.2.orders ++ (r.flights env.noted t).filterMap Flight.ticket? := by
  induction r, t using runStages.induct env.noted with
  | case1 r t r' t' hstep ih =>
    have hfirst := orders_step env h hrefreshing t
    obtain ⟨hsound, hrefreshing'⟩ := (turns_step env.noted r t).sound h
    rw [hstep] at hfirst hsound hrefreshing'
    rw [runStages_eq, flights_eq, hstep, List.filterMap_append, ← List.append_assoc, ← hfirst]
    exact ih hsound (hrefreshing'.trans hrefreshing)
  | case2 r t r' t' hstep | case3 r t e r' t' hstep | case4 r t r' t' hstep =>
    have hfirst := orders_step env h hrefreshing t
    rw [hstep] at hfirst
    rw [runStages_eq, flights_eq, hstep, List.append_nil]
    exact hfirst

/-- An operation orders the refreshes of its calls. -/
theorem orders_perform {r : Run} (h : r.Sound) (hrefreshing : r.refreshing = true)
    (t : σ × RefreshLog) (op : Operation) :
    (r.perform env.noted t op).2.2.2.orders =
      t.2.orders ++ (r.flightsOf env.noted t op).filterMap Flight.ticket? := by
  cases op with
  | stageFile file | clear | settle => exact (List.append_nil _).symm
  | step => exact orders_step env h hrefreshing t
  | start =>
    simp only [perform, flightsOf, start_eq]
    split
    · obtain ⟨hsound, hrefreshing'⟩ := (turns_resume env.noted r t).sound h
      exact orders_runStages env hsound (hrefreshing'.trans hrefreshing) t
    · exact (List.append_nil _).symm

/-- Operations order the refreshes of their calls. -/
theorem orders_operate (ops : List Operation) {r : Run} (h : r.Sound)
    (hrefreshing : r.refreshing = true) (t : σ × RefreshLog) :
    (operate env.noted ops r t).2.2.orders =
      t.2.orders ++
        ((history env.noted ops r t).flatMap (·.flights)).filterMap Flight.ticket? := by
  induction ops generalizing r t with
  | nil => exact (List.append_nil _).symm
  | cons op ops ih =>
    obtain ⟨hsound, hrefreshing'⟩ := (turns_perform env.noted r t op).sound h
    rw [history, List.flatMap_cons, List.filterMap_append, ← List.append_assoc]
    change _ = (t.2.orders ++ (r.flightsOf env.noted t op).filterMap Flight.ticket?) ++ _
    rw [← orders_perform env h hrefreshing t op]
    exact ih hsound (hrefreshing'.trans hrefreshing) _

end Orders

/-- The call of a move is waited for. -/
theorem Move.waits {r r' : Run} {es : List Event} (m : Move r es r') (h : r.Sound) {f : Flight}
    (hf : .called f ∈ es) : ∃ stage, Waits f stage := by
  have hsound := m.sound_of_called h hf
  cases m with
  | @abandon stage c hphase hc =>
    obtain rfl := Event.called.inj (List.mem_singleton.mp hf)
    exact ⟨stage, hsound, rfl, hc⟩
  | @answer stage c hphase hc answer =>
    obtain rfl := Event.called.inj (List.mem_singleton.mp hf)
    exact ⟨stage, hsound, rfl, hc⟩
  | stage file _ => simp at hf
  | clear | resume | refresh => cases hf

/-- Every call of a path is waited for. -/
theorem Path.waits {r r' : Run} {es : List Event} (path : Path r es r') (h : r.Sound) {f : Flight}
    (hf : .called f ∈ es) : ∃ stage, Waits f stage := by
  induction path with
  | refl => cases hf
  | tail path m ih =>
    rcases List.mem_append.mp hf with hf | hf
    · exact ih hf
    · exact m.waits (path.sound h).1 hf

/-- A raised run has a record of the same file. -/
theorem RaisedTo.map_fileId {r r' : Run} (h : r.RaisedTo r') :
    r'.record.map (·.fileId) = r.record.map (·.fileId) := by
  have hrecord := h.record
  generalize r.record = x at hrecord
  generalize r'.record = x' at hrecord
  cases hrecord with
  | none => rfl
  | some hab => exact congrArg some hab.fileId

end Run

/-- Calls that agree leave a record of the same run and the same file. -/
theorem Flight.AgreesWith.leaves? {f f' : Flight} (h : f.AgreesWith f') {stage : Stage}
    (hf : Run.Waits f stage) : f'.leaves? = f.leaves? := by
  obtain ⟨hasked, hraised⟩ := h
  obtain ⟨hsound, hphase, hc⟩ := hf
  obtain ⟨r, c, answer⟩ := f
  obtain ⟨r', c', answer'⟩ := f'
  cases hasked
  have hid : r'.id = r.id := hraised.id
  have hproject : ∀ (n : Nat) (x : Option Record),
      x.map (fun a => (n, a.fileId)) = (x.map (·.fileId)).map fun fileId => (n, fileId) :=
    fun n x => (Option.map_map _ _ _).symm
  simp only [Flight.leaves?, hid, hproject]
  cases answer with
  | none => rw [Run.left?_of_abandoned, Run.left?_of_abandoned]
  | some answer =>
    have hc' : r'.request? stage = some c := (hraised.request? stage).trans hc
    rw [Run.left?_of_answered hc, Run.left?_of_answered hc']
    rw [(hraised.conclude hsound hphase hc answer).map_fileId]

end CsvCleaning
