import CsvCleaning.Proofs.Run.Delivery
import CsvCleaning.Run.Timeline

/-!
# Virtual time delivers

Every refresh that was ordered is ready, asleep or back, and stays so while time passes: it first
waits for its turn, then perhaps for an answer or its timeout, and then it is back. A refresh falls
asleep once at most, so waking the next one as often as there are refreshes is enough for all of
them to come back.
-/

namespace CsvCleaning.Timeline

variable {σ : Type} (service : Service σ)

/-- The refreshes that have not been handed over. -/
def owed (t : Timeline σ) : Multiset Ticket :=
  (t.ready.map (·.ticket) : List Ticket) + (t.asleep.map (·.ticket) : List Ticket) +
    ticketsOf t.back

/-- No refresh that is asleep waits for its turn. -/
def Begun (t : Timeline σ) : Prop :=
  ∀ a ∈ t.asleep, a.awaited ≠ .turn

/-- How many refreshes may still have to be woken. -/
def wakings (t : Timeline σ) : Nat :=
  t.ready.countP (·.awaited = .turn) + t.asleep.length

/-- What becomes of a timeline when refreshes go on that were ready: these are owed by the second
timeline, and each of them that had waited for its turn may have fallen asleep. -/
structure Continues (going : List ReadyRefresh) (t t' : Timeline σ) : Prop where
  ready : t'.ready = t.ready
  owed : t'.owed = (going.map (·.ticket) : List Ticket) + t.owed
  begun : t.Begun → t'.Begun
  asleep : t'.asleep.length ≤ going.countP (·.awaited = .turn) + t.asleep.length

/-- Only the refreshes of a timeline matter. -/
theorem Continues.congr {going : List ReadyRefresh} {t₀ t t' : Timeline σ}
    (h : Continues going t₀ t') (hready : t₀.ready = t.ready) (hasleep : t₀.asleep = t.asleep)
    (hback : t₀.back = t.back) : Continues going t t' where
  ready := h.ready.trans hready
  owed := by
    rw [h.owed, Timeline.owed, Timeline.owed, hready, hasleep, hback]
  begun ht := h.begun (by rwa [Begun, hasleep])
  asleep := hasleep ▸ h.asleep

/-- Refreshes go on one after the other. -/
theorem Continues.cons {r : ReadyRefresh} {rest : List ReadyRefresh} {t t₁ t' : Timeline σ}
    (h : Continues [r] t t₁) (h' : Continues rest t₁ t') : Continues (r :: rest) t t' where
  ready := h'.ready.trans h.ready
  owed := by
    rw [h'.owed, h.owed, ← Multiset.add_assoc, Multiset.coe_add, ← List.map_append]
    exact congrArg (· + t.owed) (Multiset.coe_eq_coe.mpr (List.perm_append_comm.map _))
  begun := h'.begun ∘ h.begun
  asleep := by
    have hfirst := h.asleep
    have hrest := h'.asleep
    rw [List.countP_cons]
    rw [List.countP_singleton] at hfirst
    omega

/-- A refresh that comes back goes on. -/
theorem continues_comeBack (t : Timeline σ) (r : ReadyRefresh) (report : Option StatusReport) :
    Continues [r] t (t.comeBack r.ticket report) where
  ready := rfl
  owed := by
    have hback : ticketsOf (t.back ++ [⟨r.ticket, report⟩]) = r.ticket ::ₘ ticketsOf t.back := by
      rw [ticketsOf, List.map_append]
      exact coe_append_ticket _ _
    change _ + _ + ticketsOf (t.back ++ [⟨r.ticket, report⟩]) = _
    rw [hback, Multiset.add_cons]
    exact (Multiset.singleton_add _ _).symm
  begun h := h
  asleep := Nat.le_add_left _ _

/-- A refresh that falls asleep after its turn goes on. -/
theorem continues_sleep (t : Timeline σ) {r : ReadyRefresh} (hr : r.awaited = .turn)
    {awaited : Awaited} (hawaited : awaited ≠ .turn) (millis : Nat) :
    Continues [r] t (t.sleep r.ticket awaited millis) := by
  unfold sleep
  split
  · exact continues_comeBack t r none
  · refine ⟨rfl, ?_, ?_, ?_⟩
    · simp only [owed, List.map_append, List.map_cons, List.map_nil]
      rw [coe_append_ticket, Multiset.add_cons, Multiset.cons_add]
      exact (Multiset.singleton_add _ _).symm
    · intro h a ha
      rcases List.mem_append.mp ha with ha | ha
      · exact h a ha
      · rw [List.mem_singleton.mp ha]
        exact hawaited
    · simp [hr, Nat.add_comm]

/-- A ready refresh goes on. -/
theorem continues_advance (seen : Phase) (t : Timeline σ) (r : ReadyRefresh) :
    Continues [r] t (t.advance service seen r) := by
  unfold advance
  cases hr : r.awaited with
  | timeout => exact continues_comeBack t r none
  | answer => exact (continues_comeBack _ r _).congr rfl rfl rfl
  | turn =>
    dsimp only
    split
    · exact (continues_comeBack _ r _).congr rfl rfl rfl
    · split
      · exact (continues_sleep _ hr (by decide) _).congr rfl rfl rfl
      · exact (continues_sleep _ hr (by decide) _).congr rfl rfl rfl
    · exact (continues_sleep _ hr (by decide) _).congr rfl rfl rfl

/-- Ready refreshes go on, in their order. -/
theorem continues_foldl (seen : Phase) (going : List ReadyRefresh) (t : Timeline σ) :
    Continues going t (going.foldl (advance service seen) t) := by
  induction going generalizing t with
  | nil => exact ⟨rfl, (Multiset.zero_add _).symm, id, Nat.le_add_left _ _⟩
  | cons r rest ih => exact (continues_advance service seen t r).cons (ih _)

/-- What stays the same while time passes. -/
structure Keeps (t t' : Timeline σ) : Prop where
  owed : t'.owed = t.owed
  begun : t.Begun → t'.Begun

/-- A timeline keeps what it is. -/
theorem Keeps.refl (t : Timeline σ) : Keeps t t :=
  ⟨rfl, id⟩

/-- What is kept twice is kept. -/
theorem Keeps.trans {t t₁ t' : Timeline σ} (h : Keeps t t₁) (h' : Keeps t₁ t') : Keeps t t' :=
  ⟨h'.owed.trans h.owed, h'.begun ∘ h.begun⟩

/-- Letting the ready refreshes go on leaves none of them ready, and no more to be woken. -/
theorem runReady_spec (seen : Phase) (t : Timeline σ) :
    (t.runReady service seen).ready = [] ∧ Keeps t (t.runReady service seen) ∧
      (t.runReady service seen).asleep.length ≤ t.wakings := by
  have h := continues_foldl service seen t.ready { t with ready := [] }
  refine ⟨h.ready, ⟨?_, h.begun⟩, h.asleep⟩
  refine h.owed.trans ?_
  simp only [owed, List.map_nil, Multiset.coe_nil, Multiset.zero_add, Multiset.add_assoc]

/-- Waking refreshes that are due keeps them. -/
theorem keeps_wakeAt (t : Timeline σ) (moment : Nat) : Keeps t (t.wakeAt moment) where
  owed := by
    have hrest : t.asleep.filter (moment < ·.due) =
        t.asleep.filter fun a => !decide (a.due ≤ moment) := by
      refine List.filter_congr fun a _ => ?_
      simp only [← decide_not, Nat.not_le]
    have hsplit := (List.filter_append_perm (fun a => decide (a.due ≤ moment)) t.asleep).map
      AsleepRefresh.ticket
    rw [← hrest, List.map_append] at hsplit
    have hwoken :
        (((t.asleep.filter (·.due ≤ moment)).map (·.ticket) : List Ticket) : Multiset Ticket) +
            ((t.asleep.filter (moment < ·.due)).map (·.ticket) : List Ticket) =
          (t.asleep.map (·.ticket) : List Ticket) := by
      rw [Multiset.coe_add]
      exact Multiset.coe_eq_coe.mpr hsplit
    simp only [owed, wakeAt, List.map_append, List.map_map, ← Multiset.coe_add, Function.comp_def]
    rw [Multiset.add_assoc (Multiset.ofList _), hwoken]
  begun h a ha := h a (List.mem_of_mem_filter ha)

/-- After waking what is due next, fewer refreshes may still have to be woken. -/
theorem wakings_wakeAt_lt {t : Timeline σ} (hbegun : t.Begun) (hready : t.ready = []) {due : Nat}
    (hdue : t.nextDue? = some due) : (t.wakeAt due).wakings < t.asleep.length := by
  have hnone : (t.wakeAt due).ready.countP (·.awaited = .turn) = 0 := by
    rw [List.countP_eq_zero]
    intro r hr
    simp only [wakeAt, hready, List.nil_append, List.mem_map] at hr
    obtain ⟨a, ha, rfl⟩ := hr
    simpa using hbegun a (List.mem_of_mem_filter ha)
  obtain ⟨hmem, -⟩ := List.min?_eq_some_iff.mp hdue
  obtain ⟨a, ha, rfl⟩ := List.mem_map.mp hmem
  rw [wakings, hnone, Nat.zero_add]
  refine List.length_filter_lt_length_iff_exists.mpr ⟨a, ha, ?_⟩
  simp

/-- Letting time pass keeps the refreshes. -/
theorem keeps_passUntil (seen : Phase) (moment steps : Nat) (t : Timeline σ) :
    Keeps t (t.passUntil service seen moment steps) := by
  induction steps generalizing t with
  | zero =>
    obtain ⟨-, hready, -⟩ := runReady_spec service seen t
    exact hready.trans (keeps_wakeAt _ moment)
  | succ steps ih =>
    obtain ⟨-, hready, -⟩ := runReady_spec service seen t
    simp only [passUntil]
    split
    · split
      · exact (hready.trans (keeps_wakeAt _ _)).trans (ih _)
      · exact hready.trans (keeps_wakeAt _ moment)
    · exact hready.trans (keeps_wakeAt _ moment)

/-- Waiting keeps the refreshes. -/
theorem keeps_waitUntil (seen : Phase) (t : Timeline σ) (moment : Nat) :
    Keeps t (t.waitUntil service seen moment) := by
  unfold waitUntil
  split
  · exact .refl t
  · exact keeps_passUntil service seen moment _ t

/-- Waiting for a call keeps the refreshes, whether the caller gives up or not. -/
theorem keeps_awaitCall {seen : Phase} {t t' : Timeline σ} {moment : Nat}
    {awaited : Option (Timeline σ)} (h : t.awaitCall service seen moment = (awaited, t')) :
    Keeps t (awaited.getD t') := by
  unfold awaitCall at h
  split at h
  · cases h
    exact keeps_waitUntil service seen t _
  · cases h
    exact keeps_waitUntil service seen t _

/-- A stage call keeps the refreshes. -/
theorem keeps_call (t : Timeline σ) (c : Call) (seen : Phase) :
    Keeps t (t.call service c seen).2 := by
  have hcalled : ∀ {s log t'}, Keeps { t with service := s, log := log } t' → Keeps t t' :=
    fun h => ⟨h.owed, h.begun⟩
  unfold call
  dsimp only
  split
  · exact ⟨rfl, id⟩
  · split
    · split
      · rename_i hawait
        exact (hcalled (keeps_awaitCall service hawait)).trans ⟨rfl, id⟩
      · rename_i hawait
        exact hcalled (keeps_awaitCall service hawait)
    · split
      · rename_i hawait
        exact hcalled (keeps_awaitCall service hawait)
      · rename_i hawait
        exact hcalled (keeps_awaitCall service hawait)
  · split
    · rename_i hawait
      exact hcalled (keeps_awaitCall service hawait)
    · rename_i hawait
      exact hcalled (keeps_awaitCall service hawait)

/-- A refresh is back if its ticket is among those of the refreshes that came back. -/
theorem isBack_iff {t : Timeline σ} {ticket : Ticket} :
    t.isBack ticket = true ↔ ticket ∈ ticketsOf t.back := by
  simp [isBack, ticketsOf]

/-- Waiting for refreshes through enough moments keeps them, and it ends when all of those with the
tickets given are back, or all that there are. -/
theorem settleAll_spec (seen : Phase) (tickets : List Ticket) {steps : Nat} {t : Timeline σ}
    (hbegun : t.Begun) (hsteps : t.wakings < steps) :
    Keeps t (t.settleAll service seen tickets steps) ∧
      ((∀ ticket ∈ tickets, ticket ∈ ticketsOf (t.settleAll service seen tickets steps).back) ∨
        (t.settleAll service seen tickets steps).owed =
          ticketsOf (t.settleAll service seen tickets steps).back) := by
  induction steps generalizing t with
  | zero => exact absurd hsteps (Nat.not_lt_zero _)
  | succ steps ih =>
    have hall : ∀ {t : Timeline σ}, tickets.all t.isBack = true →
        ∀ ticket ∈ tickets, ticket ∈ ticketsOf t.back := fun h ticket hticket =>
      isBack_iff.mp (List.all_eq_true.mp h ticket hticket)
    obtain ⟨hready, hkeeps, hasleep⟩ := runReady_spec service seen t
    unfold settleAll
    split
    · rename_i h
      exact ⟨.refl t, .inl (hall h)⟩
    · dsimp only
      split
      · rename_i h
        exact ⟨hkeeps, .inl (hall h)⟩
      · split
        · rename_i due hdue
          have hlt := wakings_wakeAt_lt (hkeeps.begun hbegun) hready hdue
          have hwoken := hkeeps.trans (keeps_wakeAt _ due)
          obtain ⟨hrest, hend⟩ := ih (hwoken.begun hbegun) (by omega)
          exact ⟨hwoken.trans hrest, hend⟩
        · rename_i hdue
          have hnone : (t.runReady service seen).asleep = [] := by
            simpa [nextDue?] using hdue
          refine ⟨hkeeps, .inr ?_⟩
          simp [owed, hready, hnone]

/-- What is handed over is no longer owed, and the rest is. -/
theorem owed_handOver (t : Timeline σ) :
    t.owed = ticketsOf t.handOver.1 + t.handOver.2.owed := by
  have hrest : t.handOver.2.owed =
      (t.ready.map (·.ticket) : List Ticket) + (t.asleep.map (·.ticket) : List Ticket) :=
    Multiset.add_zero _
  rw [hrest, Multiset.add_comm]
  rfl

/-- At the beginning of time nothing is owed. -/
theorem owed_start (s : σ) (timeout : Nat) :
    (start s timeout).Begun ∧ 0 = (start s timeout).owed :=
  ⟨(fun _ ha => nomatch ha), rfl⟩

/-- The surroundings of a timeline deliver: they owe the refreshes that are ready, asleep or
back. -/
theorem delivers_surroundings :
    (surroundings service).Delivers fun t owed => t.Begun ∧ owed = t.owed where
  call := by
    rintro t _ ⟨hbegun, rfl⟩ c seen
    have hkeeps := keeps_call service t c seen.phase
    exact ⟨hkeeps.begun hbegun, hkeeps.owed.symm⟩
  order := by
    rintro t _ ⟨hbegun, rfl⟩ ticket
    refine ⟨hbegun, ?_⟩
    simp only [surroundings, owed, List.map_append, List.map_cons, List.map_nil]
    rw [coe_append_ticket, Multiset.cons_add, Multiset.cons_add]
  arrived := by
    rintro t _ ⟨hbegun, rfl⟩
    exact ⟨_, ⟨hbegun, rfl⟩, owed_handOver t⟩
  settle := by
    rintro t _ ⟨hbegun, rfl⟩ tickets seen
    have henough : t.wakings < t.ready.length + t.asleep.length + 1 := by
      have hturns := List.countP_le_length (p := (·.awaited = .turn)) (l := t.ready)
      unfold wakings
      omega
    obtain ⟨hkeeps, hend⟩ := settleAll_spec service seen.phase tickets hbegun henough
    refine ⟨_, ⟨hkeeps.begun hbegun, rfl⟩, ?_, ?_⟩
    · rw [← hkeeps.owed]
      exact owed_handOver _
    · intro ticket hticket howed
      rcases hend with hall | hend
      · exact hall ticket hticket
      · rw [← hkeeps.owed, hend] at howed
        exact howed

end CsvCleaning.Timeline
