import CsvCleaning.Calendar

/-!
# Health reports

A report sums up the checks of the service: it is as bad as the worst of them.
-/

namespace CsvCleaning

/-- How a component is. -/
inductive HealthStatus where
  | healthy
  | degraded
  | unhealthy
deriving DecidableEq, Repr

/-- A check of one component. -/
structure HealthCheck where
  component : String
  status : HealthStatus
  message : Option String
  responseMillis : Nat
deriving DecidableEq, Repr

/-- The checks of the service at an instant. -/
structure HealthReport where
  checks : List HealthCheck
  version : String
  timestamp : Int
deriving DecidableEq, Repr

namespace HealthStatus

/-- The name of a status. -/
def name : HealthStatus → String
  | healthy => "Healthy"
  | degraded => "Degraded"
  | unhealthy => "Unhealthy"

/-- The mark of a status. -/
def mark : HealthStatus → String
  | healthy => "✓"
  | degraded => "⚠"
  | unhealthy => "✗"

end HealthStatus

/-- The whole milliseconds of a duration, in 64 bits. -/
def millisOf (seconds nanoseconds : Nat) : Nat :=
  (seconds * 1000000000 + nanoseconds) / 1000000 % Nat.pow 2 64

/-- The lines of a check. -/
def HealthCheck.format (c : HealthCheck) : String :=
  c.status.mark ++ " " ++ c.component ++ " (" ++ c.status.name ++ ") - " ++
    toString c.responseMillis ++ "ms" ++
    (match c.message with
    | some text => "\n  " ++ text
    | none => "") ++ "\n"

namespace HealthReport

/-- The worst status among the checks. -/
def overall (r : HealthReport) : HealthStatus :=
  if r.checks.any (·.status == .unhealthy) then .unhealthy
  else if r.checks.any (·.status == .degraded) then .degraded
  else .healthy

/-- Decide whether all is well. -/
def isHealthy (r : HealthReport) : Bool :=
  r.overall == .healthy

/-- The text of a report. -/
def format (r : HealthReport) : String :=
  r.overall.mark ++ " Backend Health: " ++ r.overall.name ++ "\nVersion: " ++ r.version ++
    "\nTimestamp: " ++ Calendar.format r.timestamp ++ "\n\n" ++
    String.join (r.checks.map HealthCheck.format)

/-- A report without checks is healthy. -/
theorem isHealthy_nil (version : String) (timestamp : Int) :
    (HealthReport.mk [] version timestamp).isHealthy = true := rfl

end HealthReport

end CsvCleaning
