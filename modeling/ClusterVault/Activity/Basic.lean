import ClusterVault.Cluster.Command
import ClusterVault.Engine.Config
import ClusterVault.Network.Client

/-!
# Activities

What a node does takes time: it sends requests, waits for answers and may be cancelled. An activity
says what is to be done, and leaves open when answers come.

## Main definitions

- `Request`, `Request.Reply`: what can be asked of servers, and what they answer
- `Activity`: something to be done
- `Activity.request`, `Activity.clock`, `Activity.either`: its parts
- `Activity.limited`: gives up at an instant
- `Activity.heeding`: gives up when it is cancelled

## Design notes

An activity is a tree whose branches are the ways in which a wait can end (`Wake`): the answer
comes, it is late, or the activity is cancelled. The limits on a wait are part of the wait, so
nothing an activity does in between takes time. Where two things become possible at the same
instant, an activity that may go either way says so.

The type `ε` is that of the errors with which servers refuse requests.
-/

namespace ClusterVault

/-- A started server, as its caller knows it. -/
structure ServerHandle where
  id : NodeId
  name : String
  deriving DecidableEq, Repr

/-- Something that can be asked. -/
inductive Request where
  | connect (config : ClientConfig)
  | manage (client : Connection) (command : MemberCommand)
  | start (config : ServerConfig)
  /-- Answered once the server is a member of a cluster. -/
  | ready (server : ServerHandle)
  | close (server : ServerHandle)
  | serve (server : ServerHandle) (user : String) (command : Command)
  /-- Never answered. -/
  | idle
  deriving DecidableEq, Repr

/-- What a request answers. -/
def Request.Reply (ε : Type) : Request → Type
  | connect _ => Except ε Connection
  | manage _ command => Except ε command.Reply
  | start _ => Except ε ServerHandle
  | ready _ => Unit
  | close _ => Unit
  | serve _ _ command => Except ε command.Reply
  | idle => Empty

/-- How a wait ends. -/
inductive Wake (ρ : Type) where
  | reply (r : ρ)
  /-- The limit passed before the answer came. -/
  | late
  | cancelled

/-- Something to be done, which ends with a value of type `α`. -/
inductive Activity (ε α : Type) where
  | done (a : α)
  /-- Cannot go on: it was asked for something that makes no sense. -/
  | abort
  /-- Goes on with the time. -/
  | clock (next : Instant → Activity ε α)
  /-- Goes on in one of two ways. -/
  | either (first second : Activity ε α)
  /-- Waits for an answer, up to a limit if there is one, and also for being cancelled if it heeds
      that. -/
  | ask (request : Request) (limit : Option Instant) (heeds : Bool)
      (next : Wake (request.Reply ε) → Activity ε α)

namespace Activity

variable {ε α β : Type}

/-- One activity after the other. -/
protected def bind : Activity ε α → (α → Activity ε β) → Activity ε β
  | done a, f => f a
  | abort, _ => abort
  | clock next, f => clock fun now => (next now).bind f
  | either a b, f => either (a.bind f) (b.bind f)
  | ask r limit heeds next, f => ask r limit heeds fun wake => (next wake).bind f

instance : Monad (Activity ε) where
  pure := done
  bind := Activity.bind

/-- Waits for the answer to a request for as long as it takes. -/
def request (r : Request) : Activity ε (r.Reply ε) :=
  ask r none false fun
    | .reply a => done a
    | _ => abort

/-- The time. -/
def now : Activity ε Instant := clock done

/-- Gives up at an instant if an answer is still awaited then. An earlier limit stays in force, and
    of two that pass together the inner one counts. -/
def limited (deadline : Instant) : Activity ε α → Activity ε (Option α)
  | done a => done (some a)
  | abort => abort
  | clock next => clock fun now => (next now).limited deadline
  | either a b => either (a.limited deadline) (b.limited deadline)
  | ask r limit heeds next =>
    if limit.any (· ≤ deadline) then ask r limit heeds fun wake => (next wake).limited deadline
    else ask r (some deadline) heeds fun
      | .late => done none
      | wake => (next wake).limited deadline

/-- Gives up after a while. -/
def timeout (bound : Duration) (a : Activity ε α) : Activity ε (Option α) :=
  clock fun now => a.limited (now + bound)

/-- Gives up when it is cancelled. -/
def heeding : Activity ε α → Activity ε (Option α)
  | done a => done (some a)
  | abort => abort
  | clock next => clock fun now => (next now).heeding
  | either a b => either a.heeding b.heeding
  | ask r limit heeds next =>
    if heeds then ask r limit heeds fun wake => (next wake).heeding
    else ask r limit true fun
      | .cancelled => done none
      | wake => (next wake).heeding

/-- Waits until an instant. -/
def sleepUntil (instant : Instant) : Activity ε Unit :=
  ask .idle (some instant) false fun
    | .late => done ()
    | _ => abort

end Activity

end ClusterVault
