import CsvCleaning.Number.Seconds
import CsvCleaning.Run.Surroundings

/-!
# Surroundings in virtual time

A service whose answers take time, seen by one run. Time passes only while the run waits, for a
stage call or for its refreshes. A waiting refresh costs nothing, a refresh that was ordered begins
when the run next waits, and no call is waited for longer than the timeout. When several things
are due at one moment the run goes on first, and refreshes follow in the order in which they began
to wait.
-/

namespace CsvCleaning

/-- What a refresh waits for. -/
inductive Awaited where
  /-- Its turn to call the service. -/
  | turn
  /-- The answer of the service. -/
  | answer
  /-- The end of the time it may take. -/
  | timeout
deriving DecidableEq, Repr

/-- A refresh that can go on. -/
structure ReadyRefresh where
  ticket : Ticket
  awaited : Awaited
deriving DecidableEq, Repr

/-- A refresh that waits until a moment. -/
structure AsleepRefresh where
  ticket : Ticket
  awaited : Awaited
  due : Nat
deriving DecidableEq, Repr

/-- A call that reached the service, with what observers saw at that moment. -/
structure LoggedCall where
  call : Call
  seen : Phase
deriving DecidableEq, Repr

/-- A service and the refreshes of one run, at a moment in milliseconds. -/
structure Timeline (σ : Type) where
  service : σ
  now : Nat
  /-- The longest time that a call may take. -/
  timeout : Nat
  /-- The moment at which the caller gives up. -/
  deadline : Option Nat
  ready : List ReadyRefresh
  asleep : List AsleepRefresh
  back : List Arrival
  log : List LoggedCall

namespace Timeline

variable {σ : Type} (service : Service σ)

/-- The beginning of time. -/
def start (s : σ) (timeout : Nat) : Timeline σ :=
  { service := s, now := 0, timeout, deadline := none, ready := [], asleep := [], back := [],
    log := [] }

/-- Note a call. -/
def note (t : Timeline σ) (c : Call) (seen : Phase) : Timeline σ :=
  { t with log := t.log ++ [⟨c, seen⟩] }

/-- Note that a refresh has come back. -/
def comeBack (t : Timeline σ) (ticket : Ticket) (report : Option StatusReport) : Timeline σ :=
  { t with back := t.back ++ [⟨ticket, report⟩] }

/-- Let a refresh wait until a moment; one that is past already is the end of it. -/
def sleep (t : Timeline σ) (ticket : Ticket) (awaited : Awaited) (millis : Nat) : Timeline σ :=
  if millis = 0 then t.comeBack ticket none
  else { t with asleep := t.asleep ++ [⟨ticket, awaited, t.now + millis⟩] }

/-- The report in an answer. -/
def report? (fileId : String) (answer : Answer (.status fileId)) : Option StatusReport :=
  match answer with
  | .ok report => some report
  | .error _ => none

/-- Let a refresh go on. -/
def advance (seen : Phase) (t : Timeline σ) (r : ReadyRefresh) : Timeline σ :=
  match r.awaited with
  | .timeout => t.comeBack r.ticket none
  | .answer =>
    let (answer, s) := service.wake (.status r.ticket.fileId) t.service
    { t with service := s }.comeBack r.ticket (report? r.ticket.fileId answer)
  | .turn =>
    let t := t.note (.status r.ticket.fileId) seen
    let (timing, s) := service.receive (.status r.ticket.fileId) t.service
    let t := { t with service := s }
    match timing with
    | .now answer => t.comeBack r.ticket (report? r.ticket.fileId answer)
    | .later millis =>
      if millis ≤ t.timeout then t.sleep r.ticket .answer millis
      else t.sleep r.ticket .timeout t.timeout
    | .never => t.sleep r.ticket .timeout t.timeout

/-- Let all refreshes that can go on do so, in order. -/
def runReady (seen : Phase) (t : Timeline σ) : Timeline σ :=
  t.ready.foldl (advance service seen) { t with ready := [] }

/-- The next moment at which a sleeping refresh is due. -/
def nextDue? (t : Timeline σ) : Option Nat :=
  (t.asleep.map (·.due)).min?

/-- Go to a moment and wake the refreshes that are due then. -/
def wakeAt (t : Timeline σ) (moment : Nat) : Timeline σ :=
  { t with
    now := moment
    ready := t.ready ++ (t.asleep.filter (·.due ≤ moment)).map fun a => ⟨a.ticket, a.awaited⟩
    asleep := t.asleep.filter (moment < ·.due) }

/-- Let time pass up to a moment, through at most `steps` earlier moments. What is due at the
moment itself can go on but has not. -/
def passUntil (seen : Phase) (moment : Nat) : Nat → Timeline σ → Timeline σ
  | 0, t => (t.runReady service seen).wakeAt moment
  | steps + 1, t =>
    let t := t.runReady service seen
    match t.nextDue? with
    | some due =>
      if due < moment then passUntil seen moment steps (t.wakeAt due) else t.wakeAt moment
    | none => t.wakeAt moment

/-- Let the run wait until a moment. Every refresh is due once at most. -/
def waitUntil (seen : Phase) (t : Timeline σ) (moment : Nat) : Timeline σ :=
  if moment ≤ t.now then t
  else t.passUntil service seen moment (t.ready.length + t.asleep.length)

/-- The failure of a call that takes too long. -/
def timedOut (t : Timeline σ) (c : Call) : Failure :=
  .transport (c.name ++ " request timed out after " ++ Seconds.format t.timeout ++ "s")

/-- Decide whether the caller gives up before a moment. -/
def givesUpBefore (t : Timeline σ) (moment : Nat) : Bool :=
  t.deadline.any (· < moment)

/-- Wait for a call that is due at a moment; `none` when the caller gives up before. -/
def awaitCall (seen : Phase) (t : Timeline σ) (moment : Nat) : Option (Timeline σ) × Timeline σ :=
  if t.givesUpBefore moment then
    (none, t.waitUntil service seen (t.deadline.getD moment))
  else
    let t := t.waitUntil service seen moment
    (some t, t)

/-- Carry out a stage call. -/
def call (t : Timeline σ) (c : Call) (seen : Phase) : Option (Answer c) × Timeline σ :=
  let t := t.note c seen
  let (timing, s) := service.receive c t.service
  let t := { t with service := s }
  let overdue : Option (Answer c) × Timeline σ :=
    match t.awaitCall service seen (t.now + t.timeout) with
    | (some t, _) => (some (.error (t.timedOut c)), t)
    | (none, t) => (none, t)
  match timing with
  | .now answer => (some answer, t)
  | .later millis =>
    if millis ≤ t.timeout then
      match t.awaitCall service seen (t.now + millis) with
      | (some t, _) =>
        let (answer, s) := service.wake c t.service
        (some answer, { t with service := s })
      | (none, t) => (none, t)
    else overdue
  | .never => overdue

/-- Decide whether a refresh has come back. -/
def isBack (t : Timeline σ) (ticket : Ticket) : Bool :=
  t.back.any (·.ticket == ticket)

/-- Wait until all refreshes with these tickets have come back, through at most `steps`
moments. -/
def settleAll (seen : Phase) (tickets : List Ticket) : Nat → Timeline σ → Timeline σ
  | 0, t => t
  | steps + 1, t =>
    if tickets.all t.isBack then t
    else
      let t := t.runReady service seen
      if tickets.all t.isBack then t
      else
        match t.nextDue? with
        | some due => settleAll seen tickets steps (t.wakeAt due)
        | none => t

/-- Hand over what has come back. -/
def handOver (t : Timeline σ) : List Arrival × Timeline σ :=
  (t.back, { t with back := [] })

/-- The timeline as the surroundings of a run. -/
def surroundings : Surroundings (Timeline σ) where
  call c seen t := t.call service c seen.phase
  order ticket t := { t with ready := t.ready ++ [⟨ticket, .turn⟩] }
  arrived t := t.handOver
  settle tickets seen t :=
    (settleAll service seen.phase tickets (t.ready.length + t.asleep.length + 1) t).handOver

end Timeline

end CsvCleaning
