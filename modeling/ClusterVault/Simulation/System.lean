import ClusterVault.Simulation.Task

/-!
# Running tasks

Tasks run against a clock that stands still while any of them has something to do, and then jumps to
the next instant at which one has.

## Main definitions

- `System`: a world with its clock and the tasks in the background
- `Backend.run`: runs a task to its end while the others go on in the background
- `Backend.spawn`, `Backend.await`: puts a task in the background, and waits for it

## Design notes

At each instant the task in front goes first, then what the world does of itself, then the tasks in
the background in their order. That is repeated, since one may wait for what another does, as often
as there are tasks. The clock only ever jumps ahead, so a bound on the number of jumps bounds the
time.
-/

namespace ClusterVault

/-- A world of type `W` with its clock and the tasks in the background, which end with a value of
    type `β`. -/
structure System (W S ε β : Type) where
  now : Instant := 0
  world : W
  background : List (Task W S ε β) := []

/-- How a run ends. -/
inductive RunResult (α : Type) where
  | ended (a : α)
  | aborted
  /-- The task waits for something that does not happen. -/
  | stuck

namespace Backend

variable {W S ε α β : Type}

/-- Takes tasks that wait as far as they get at an instant, one after the other. -/
def resumeAll (b : Backend W S ε) (now : Instant) :
    W → List (Task W S ε β) → W × List (Task W S ε β)
  | w, [] => (w, [])
  | w, t :: rest =>
    let (w, t) := b.resume now w t
    let (w, rest) := b.resumeAll now w rest
    (w, t :: rest)

/-- Lets everything happen that happens at the present instant. The first argument bounds how often
    one thing can wait for another. The task in front comes back as soon as it has ended. -/
def happen (b : Backend W S ε) :
    Nat → System W S ε β → Task W S ε α → System W S ε β × Task W S ε α
  | 0, s, front => (s, front)
  | passes + 1, s, front =>
    let (world, front) := b.resume s.now s.world front
    match front.state with
    | .waiting .. =>
      let (world, background) := b.resumeAll s.now (b.settle s.now world) s.background
      b.happen passes { s with world, background } front
    | _ => ({ s with world }, front)

/-- The next instant at which something happens. -/
def nextInstant? (b : Backend W S ε) (s : System W S ε β) (front : Task W S ε α) :
    Option Instant :=
  let alarms := front.alarms ++ (b.nextWork s.world).toList ++ s.background.flatMap Task.alarms
  (alarms.filter (s.now < ·)).min?

/-- Runs a task to its end, with at most the given number of jumps of the clock. -/
def runWithin (b : Backend W S ε) :
    Nat → System W S ε β → Task W S ε α → System W S ε β × RunResult α
  | 0, s, _ => (s, .stuck)
  | jumps + 1, s, front =>
    let (s, front) := b.happen (s.background.length + 3) s front
    match front.state with
    | .ended a => (s, .ended a)
    | .aborted => (s, .aborted)
    | .waiting .. =>
      match b.nextInstant? s front with
      | none => (s, .stuck)
      | some next => b.runWithin jumps { s with now := next } front

/-- The largest number of jumps of the clock in a run. -/
def longestRun : Nat := 0x1000000000000000

/-- Runs an activity to its end while the others go on in the background. -/
def run (b : Backend W S ε) (s : System W S ε β) (site : S) (cancelAt : Option Instant)
    (a : Activity ε α) : System W S ε β × RunResult α :=
  let (world, state) := b.advance site cancelAt s.now a s.world
  let s := { s with world }
  match state with
  | .ended a => (s, .ended a)
  | .aborted => (s, .aborted)
  | .waiting .. => b.runWithin longestRun s ⟨site, cancelAt, state⟩

/-- A task that is to start when the present one waits for the first time. -/
def prepare (site : S) (cancelAt : Option Instant) (now : Instant) (a : Activity ε α) :
    Task W S ε α :=
  ⟨site, cancelAt, .waiting .idle .never (some now) false fun _ => a⟩

/-- Runs until a task in the background has ended, which is taken off the list. -/
def await (b : Backend W S ε) (s : System W S ε β) (index : Nat) :
    System W S ε β × RunResult β :=
  match s.background[index]? with
  | none => (s, .stuck)
  | some task =>
    b.runWithin longestRun { s with background := s.background.eraseIdx index } task

/-- Adds a task to those in the background. -/
def spawn (s : System W S ε β) (site : S) (cancelAt : Option Instant) (a : Activity ε β) :
    System W S ε β :=
  { s with background := s.background ++ [prepare site cancelAt s.now a] }

end Backend

end ClusterVault
