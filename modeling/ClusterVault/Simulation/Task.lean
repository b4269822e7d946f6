import ClusterVault.Activity.Basic

/-!
# Tasks

A task is an activity that is under way in some world.

## Main definitions

- `Flight`: an answer that is awaited
- `Backend`: how a world takes requests and answers them
- `TaskState`, `Task`: an activity under way
- `Backend.advance`, `Backend.resume`: taking an activity as far as it gets at an instant

## Design notes

A wait ends with its answer if that is there, or else with the task being cancelled, or else with
its limit. A request that heeds being cancelled is not even sent once the task is cancelled.
-/

namespace ClusterVault

/-- An answer that is awaited in a world of type `W`. -/
structure Flight (W ρ : Type) where
  /-- When the answer comes, if that is known. -/
  due : Option Instant
  /-- The answer, if it is there at an instant. -/
  poll : Instant → W → Option ρ

namespace Flight

variable {W ρ : Type}

/-- An answer that is there at once. -/
def answered (r : ρ) : Flight W ρ := ⟨none, fun _ _ => some r⟩

/-- An answer that comes at an instant. -/
def arriving (due : Instant) (r : ρ) : Flight W ρ :=
  ⟨some due, fun now _ => if due ≤ now then some r else none⟩

/-- An answer that never comes. -/
def never : Flight W ρ := ⟨none, fun _ _ => none⟩

/-- An answer that comes when the world is ready for it. -/
def upon (ready : W → Bool) (r : ρ) : Flight W ρ :=
  ⟨none, fun _ w => if ready w then some r else none⟩

end Flight

/-- How a world of type `W` takes requests from a site of type `S` and answers them. -/
structure Backend (W S ε : Type) where
  /-- Takes a request. -/
  issue : S → Instant → W → (r : Request) → W × Flight W (r.Reply ε)
  /-- Does what is to be done of itself by an instant. -/
  settle : Instant → W → W
  /-- When something is next to be done of itself. -/
  nextWork : W → Option Instant

/-- How far an activity has got. -/
inductive TaskState (W ε α : Type) where
  | ended (a : α)
  | aborted
  | waiting (request : Request) (flight : Flight W (request.Reply ε)) (limit : Option Instant)
      (heeds : Bool) (next : Wake (request.Reply ε) → Activity ε α)

/-- An activity under way. -/
structure Task (W S ε α : Type) where
  site : S
  /-- When the task is cancelled, if it is. -/
  cancelAt : Option Instant
  state : TaskState W ε α

/-- Whether a task is cancelled by an instant. -/
def isCancelled (cancelAt : Option Instant) (now : Instant) : Bool := cancelAt.any (· ≤ now)

namespace Backend

variable {W S ε α : Type}

/-- Takes an activity as far as it gets at an instant. -/
def advance (b : Backend W S ε) (site : S) (cancelAt : Option Instant) (now : Instant) :
    Activity ε α → W → W × TaskState W ε α
  | .done a, w => (w, .ended a)
  | .abort, w => (w, .aborted)
  | .clock next, w => b.advance site cancelAt now (next now) w
  | .either first _, w => b.advance site cancelAt now first w
  | .ask r limit heeds next, w =>
    if heeds && isCancelled cancelAt now then
      b.advance site cancelAt now (next .cancelled) w
    else
      let (w, flight) := b.issue site now w r
      match flight.poll now w with
      | some reply => b.advance site cancelAt now (next (.reply reply)) w
      | none =>
        if limit.any (· ≤ now) then b.advance site cancelAt now (next .late) w
        else (w, .waiting r flight limit heeds next)

/-- Takes a task that waits as far as it gets at an instant. -/
def resume (b : Backend W S ε) (now : Instant) (w : W) (t : Task W S ε α) :
    W × Task W S ε α :=
  let go (a : Activity ε α) : W × Task W S ε α :=
    let (w, state) := b.advance t.site t.cancelAt now a w
    (w, { t with state })
  match t.state with
  | .ended _ => (w, t)
  | .aborted => (w, t)
  | .waiting _ flight limit heeds next =>
    match flight.poll now w with
    | some reply => go (next (.reply reply))
    | none =>
      if heeds && isCancelled t.cancelAt now then go (next .cancelled)
      else if limit.any (· ≤ now) then go (next .late)
      else (w, t)

end Backend

/-- Whether a task waits for nothing any more. -/
def Task.isOver {W S ε α : Type} (t : Task W S ε α) : Bool :=
  match t.state with
  | .waiting .. => false
  | _ => true

/-- The instants at which a wait can end, as far as they are known. -/
def Task.alarms {W S ε α : Type} (t : Task W S ε α) : List Instant :=
  match t.state with
  | .waiting _ flight limit heeds _ =>
    flight.due.toList ++ limit.toList ++ (if heeds then t.cancelAt.toList else [])
  | _ => []

end ClusterVault
