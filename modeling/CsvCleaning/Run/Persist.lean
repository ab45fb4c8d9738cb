import CsvCleaning.Run.Machine

/-!
# Retrying a run

A run that fails is started again, a limited number of times. Each start resumes at the stage that
failed.
-/

namespace CsvCleaning.Run

variable {σ : Type} (env : Surroundings σ)

/-- Start a run, and again after each failed stage, `retries` times at most. -/
def persist : Nat → Run → σ → Ending Phase × Run × σ
  | 0, r, s => r.start env s
  | retries + 1, r, s =>
    match r.start env s with
    | (.done (.failed _ _), r, s) => persist retries r s
    | ended => ended

/-- Without retries a run is started once. -/
theorem persist_zero (r : Run) (s : σ) : persist env 0 r s = r.start env s := rfl

/-- A run that is started with success is not started again. -/
theorem persist_of_ready {retries : Nat} {r r' : Run} {s s' : σ}
    (h : r.start env s = (.done .ready, r', s')) :
    persist env retries r s = (.done .ready, r', s') := by
  cases retries with
  | zero => exact h
  | succ n => simp [persist, h]

end CsvCleaning.Run
