import CsvCleaning.Http.Request

/-!
# Networks that replay

Work that asks a network for answers can be done over and over with the answers known so far. Where
they end, the next request is noted, so that it can be carried out and the work done again with one
answer more.
-/

namespace CsvCleaning

/-- The answers still to be replayed, and the first request for which there was none. -/
structure Replay where
  answers : List Exchange
  pending : Option Request
deriving DecidableEq, Repr

namespace Replay

/-- The beginning of a replay. -/
def ofAnswers (answers : List Exchange) : Replay :=
  ⟨answers, none⟩

/-- Replay the next answer, or note the request. -/
def network : Network Replay := fun request r =>
  match r.answers with
  | answer :: rest => (answer, { r with answers := rest })
  | [] => (.noAnswer, { r with pending := r.pending.or (some request) })

/-- A known answer is replayed. -/
theorem network_cons (request : Request) (answer : Exchange) (rest : List Exchange)
    (pending : Option Request) :
    network request ⟨answer :: rest, pending⟩ = (answer, ⟨rest, pending⟩) := rfl

end Replay

end CsvCleaning
