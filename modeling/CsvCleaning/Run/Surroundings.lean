import CsvCleaning.Run.Progress
import CsvCleaning.Service.Call

/-!
# What surrounds a run

A run asks its surroundings for everything that is not its own doing: the answers to its stage
calls, and status refreshes, which it orders after each stage and which come back when they come
back. Nothing is assumed of them: a call may be given up while it is on its way, and refreshes may
come late, in any order, or not at all.
-/

namespace CsvCleaning

/-- A status refresh that a run has ordered. -/
structure Ticket where
  number : Nat
  run : Nat
  fileId : String
deriving DecidableEq, Repr

/-- A status refresh that has come back: with a report, or without one if it failed in any way. -/
structure Arrival where
  ticket : Ticket
  report : Option StatusReport
deriving DecidableEq

/-- What answers a run. Every operation is told what observers see at that moment. -/
structure Surroundings (σ : Type) where
  /-- Carry out a stage call; `none` when the caller gave up before the answer. -/
  call : (c : Call) → Snapshot → σ → Option (Answer c) × σ
  /-- Take an order for a status refresh. -/
  order : Ticket → σ → σ
  /-- Hand over the refreshes that have come back, in their order. -/
  arrived : σ → List Arrival × σ
  /-- Wait for all refreshes with these tickets and hand over what has come back. -/
  settle : List Ticket → Snapshot → σ → List Arrival × σ

end CsvCleaning
