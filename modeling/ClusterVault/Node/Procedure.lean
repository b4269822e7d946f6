import ClusterVault.Activity.Basic
import ClusterVault.Node.Error

/-!
# Procedures

A procedure is an activity that can fail.

## Main definitions

- `Procedure`: an activity that ends with a value or a failure
- `Procedure.call`, `Procedure.boundedCall`: a request whose refusal is a failure
- `Procedure.uncancelled`: a procedure that fails when it is cancelled
- `Procedure.orElse`: what is done before a failure is passed on
-/

namespace ClusterVault

/-- An activity that ends with a value or a failure. -/
abbrev Procedure (ε α : Type) := ExceptT (NodeError ε) (Activity ε) α

namespace Procedure

variable {ε α : Type}

/-- An activity that cannot fail. -/
def ofActivity (a : Activity ε α) : Procedure ε α := ExceptT.lift a

/-- A value or a failure that is there already. -/
def ofExcept (result : Except (NodeError ε) α) : Procedure ε α := ExceptT.mk (.done result)

/-- The URL that was read, or a failure. -/
def ofUrl (result : Except Url.ParseError α) : Procedure ε α := ofExcept (result.mapError .url)

/-- Waits for an answer, and fails if the request is refused. -/
def call (step : NodeStep) (answer : Activity ε (Except ε α)) : Procedure ε α := do
  match ← ofActivity answer with
  | .ok a => pure a
  | .error e => throw (.engine step e)

/-- Waits for an answer up to a while, and fails if it is late or the request is refused. -/
def boundedCall (step : NodeStep) (bound : Duration) (answer : Activity ε (Except ε α)) :
    Procedure ε α := do
  match ← ofActivity (answer.timeout bound) with
  | some (.ok a) => pure a
  | some (.error e) => throw (.engine step e)
  | none => throw (.timeout step bound)

/-- Fails when it is cancelled. -/
def uncancelled (a : Activity ε α) : Procedure ε α := do
  match ← ofActivity a.heeding with
  | some a => pure a
  | none => throw .cancelled

/-- Does something else before a failure is passed on. -/
def orElse (p : Procedure ε α) (cleanup : Activity ε Unit) : Procedure ε α :=
  tryCatch p fun e => do
    ofActivity cleanup
    throw e

end Procedure

end ClusterVault
