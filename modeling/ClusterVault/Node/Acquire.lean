import ClusterVault.Node.Launch

/-!
# Acquiring a store

A node first tries to join a cluster. If there is none, one node founds it and the others wait.

## Main definitions

- `NodeRole`, `AcquireOptions`: what a node does when there is no cluster to join
- `attemptRounds`, `waitForCluster`: tries to join again and again until a deadline
- `Launcher.acquire`: the whole of it

## Design notes

The deadline and the time for the next attempt are looked at between attempts, so an attempt that is
under way when the deadline passes runs to its end. If both have passed by then, it is open which of
them counts: there may be one more attempt after the deadline, and if that takes long, another one.
An attempt that falls due while another one is under way comes right after that, and the next one is
due an interval later.

Activities have an end on every branch, so the number of attempts is bounded. The bound leaves room for
all attempts that can begin before the deadline and for some that begin after it.
-/

namespace ClusterVault

/-- What a node does when there is no cluster to join. -/
inductive NodeRole where
  | bootstrapper
  | follower
  deriving DecidableEq, Repr

/-- How a node acquires a store. -/
structure AcquireOptions where
  role : NodeRole
  /-- The time between attempts of a follower. -/
  pollInterval : Duration := .ofSeconds 10
  /-- How long a follower waits in all. -/
  waitDeadline : Duration := .ofSeconds 120
  deriving DecidableEq, Repr

/-- The length of a delay that counts as keeping the interval. -/
def tickTolerance : Duration := 5

/-- When the attempt after one that was due at `tick` and comes at `now` is due. -/
def nextTick (pollInterval : Duration) (tick now : Instant) : Instant :=
  if now > tick + tickTolerance then now + pollInterval else tick + pollInterval

variable {ε α : Type}

/-- Gives up waiting. -/
def giveUp (bound : Duration) : Procedure ε α := throw (.waitDeadline bound)

/-- Waits for an instant, unless it is cancelled before. -/
def pauseUntil (instant : Instant) : Procedure ε Unit :=
  Procedure.uncancelled (Activity.sleepUntil instant)

/-- Goes on after a failure, save being cancelled. -/
def unlessCancelled (rest : Procedure ε α) : NodeError ε → Procedure ε α
  | .cancelled => throw .cancelled
  | _ => rest

/-- Tries again at every tick until an attempt succeeds or is cancelled, or the deadline has passed.
    The first argument bounds the number of attempts. -/
def attemptRounds (o : AcquireOptions) (attempt : Procedure ε α) (deadline : Instant) :
    Nat → Instant → Procedure ε α
  | 0, _ => do
    pauseUntil deadline
    giveUp o.waitDeadline
  | rounds + 1, tick => do
    pauseUntil (min deadline tick)
    let now ← Procedure.ofActivity Activity.now
    let again : Procedure ε α := tryCatch attempt
      (unlessCancelled (attemptRounds o attempt deadline rounds (nextTick o.pollInterval tick now)))
    if tick ≤ now then
      if deadline ≤ now then
        ExceptT.mk (.either again.run (giveUp o.waitDeadline).run)
      else again
    else giveUp o.waitDeadline

/-- Tries to join again and again until a deadline, at most so many times. It makes no sense without
    a pause between attempts. -/
def waitForCluster (o : AcquireOptions) (rounds : Nat) (attempt : Procedure ε α) :
    Procedure ε α := do
  let now ← Procedure.ofActivity Activity.now
  if o.pollInterval = 0 then Procedure.ofActivity .abort
  else attemptRounds o attempt (now + o.waitDeadline) rounds (now + o.pollInterval)

/-- The most attempts of a follower: all that can begin before the deadline, and two more. -/
def AcquireOptions.maxRounds (o : AcquireOptions) : Nat := o.waitDeadline / o.pollInterval + 2

/-- Joins a cluster, and if there is none founds one or waits for one, as the role says. -/
def Launcher.acquire [EngineFault ε] (l : Launcher) (o : AcquireOptions) :
    Procedure ε SecretStore :=
  tryCatch (l.launch .join) fun
    | .join _ =>
      match o.role with
      | .bootstrapper => l.launch .bootstrap
      | .follower => waitForCluster o o.maxRounds (l.launch .join)
    | e => throw e

end ClusterVault
