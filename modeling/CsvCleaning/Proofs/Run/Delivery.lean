import CsvCleaning.Proofs.Run.Reports
import Mathlib.Data.Multiset.Filter

/-!
# Surroundings that deliver

Surroundings deliver if every refresh that was ordered is handed over once, sooner or later, and if
those that a run waits for are handed over before it goes on. When the others come back and in which
order is left open.
-/

namespace CsvCleaning

/-- The tickets of refreshes that came back. -/
def ticketsOf (arrivals : List Arrival) : Multiset Ticket :=
  (arrivals.map (·.ticket) : List Ticket)

/-- No refresh is lost and none comes back twice. `Owes` says which refreshes were ordered and have
not been handed over. -/
structure Surroundings.Delivers {σ : Type} (env : Surroundings σ)
    (Owes : σ → Multiset Ticket → Prop) : Prop where
  call : ∀ {s owed}, Owes s owed → ∀ c seen, Owes (env.call c seen s).2 owed
  order : ∀ {s owed}, Owes s owed → ∀ ticket, Owes (env.order ticket s) (ticket ::ₘ owed)
  arrived : ∀ {s owed}, Owes s owed →
    ∃ rest, Owes (env.arrived s).2 rest ∧ owed = ticketsOf (env.arrived s).1 + rest
  settle : ∀ {s owed}, Owes s owed → ∀ tickets seen,
    ∃ rest, Owes (env.settle tickets seen s).2 rest ∧
      owed = ticketsOf (env.settle tickets seen s).1 + rest ∧
      ∀ ticket ∈ tickets, ticket ∈ owed → ticket ∈ ticketsOf (env.settle tickets seen s).1

/-- Refreshes that are handed over in the order of the orders are delivered. -/
theorem ticketsOf_map (tickets : List Ticket) (reports : Ticket → Option StatusReport) :
    ticketsOf (tickets.map fun ticket => ⟨ticket, reports ticket⟩) = tickets := by
  have hsame : (fun arrival : Arrival => arrival.ticket) ∘
      (fun ticket => ⟨ticket, reports ticket⟩) = id := rfl
  rw [ticketsOf, List.map_map, hsame, List.map_id]

/-- One more order at the end is one more order. -/
theorem coe_append_ticket (tickets : List Ticket) (ticket : Ticket) :
    ((tickets ++ [ticket] : List Ticket) : Multiset Ticket) =
      ticket ::ₘ (tickets : Multiset Ticket) :=
  Multiset.coe_eq_coe.mpr (List.perm_append_singleton ticket tickets)

/-- Prompt surroundings deliver. -/
theorem Surroundings.delivers_prompt (answers : (c : Call) → Answer c)
    (reports : Ticket → Option StatusReport) :
    (prompt answers reports).Delivers fun s owed => owed = s where
  call := fun hs c seen => hs
  order := by
    rintro s _ rfl ticket
    exact (coe_append_ticket s ticket).symm
  arrived := by
    rintro s _ rfl
    exact ⟨0, rfl, by rw [prompt, ticketsOf_map, Multiset.add_zero]⟩
  settle := by
    rintro s _ rfl tickets seen
    refine ⟨0, rfl, by rw [prompt, ticketsOf_map, Multiset.add_zero], fun ticket _ howed => ?_⟩
    rwa [prompt, ticketsOf_map]

/-- Surroundings that answer every call, and in which refreshes come back only when the run waits
for them, the last one first. -/
def Surroundings.tardy (answers : (c : Call) → Answer c) (reports : Ticket → Option StatusReport) :
    Surroundings (List Ticket) where
  call c _ tickets := (some (answers c), tickets)
  order ticket tickets := ticket :: tickets
  arrived tickets := ([], tickets)
  settle _ _ tickets := (tickets.map fun ticket => ⟨ticket, reports ticket⟩, [])

/-- Tardy surroundings deliver. -/
theorem Surroundings.delivers_tardy (answers : (c : Call) → Answer c)
    (reports : Ticket → Option StatusReport) :
    (tardy answers reports).Delivers fun s owed => owed = s where
  call := fun hs c seen => hs
  order := by
    rintro s _ rfl ticket
    rfl
  arrived := by
    rintro s _ rfl
    exact ⟨s, rfl, (Multiset.zero_add _).symm⟩
  settle := by
    rintro s _ rfl tickets seen
    refine ⟨0, rfl, by rw [tardy, ticketsOf_map, Multiset.add_zero], fun ticket _ howed => ?_⟩
    rwa [tardy, ticketsOf_map]

end CsvCleaning
