import ClusterVault.Files.FileSystem
import ClusterVault.Simulation.System

/-!
# Scripted servers

Servers that answer as a script says, and keep a record of what they were asked.

## Main definitions

- `Scripted`: one line of a script
- `Script`: the lines for each kind of request
- `ScriptedError`: the error of a request that a line refuses
- `ScriptedWorld.backend`: how requests are answered

## Design notes

The lines for a kind of request are used up in order. A request that finds none succeeds at once.
-/

namespace ClusterVault

/-- The error of a request that a script refuses. -/
structure ScriptedError where
  kind : ErrorKind
  deriving DecidableEq, Repr

instance : EngineFault ScriptedError := ⟨ScriptedError.kind, fun e => s!"mock {e.kind.name}"⟩

/-- One line of a script: how a request is answered. -/
inductive Scripted (α : Type) where
  | answer (delay : Duration) (result : Except ErrorKind α)
  /-- There is no answer. -/
  | hang

/-- The lines for each kind of request. -/
structure Script where
  connect : List (Scripted Unit) := []
  memberList : List (Scripted (List Member)) := []
  /-- With the ids of new members. -/
  memberAdd : List (Scripted Nat) := []
  memberRemove : List (Scripted Unit) := []
  start : List (Scripted Unit) := []
  ready : List (Scripted Unit) := []
  close : List (Scripted Unit) := []
  authStatus : List (Scripted Bool) := []
  roleAdd : List (Scripted Unit) := []
  roleGrant : List (Scripted Unit) := []
  userAdd : List (Scripted Unit) := []
  userGrant : List (Scripted Unit) := []
  authEnable : List (Scripted Unit) := []
  transact : List (Scripted Transaction.Result) := []
  leaseGrant : List (Scripted LeaseId) := []
  leaseRevoke : List (Scripted Unit) := []

/-- A script and the requests so far, the last one first, with the files of the machine that makes
    them. -/
structure ScriptedWorld where
  script : Script
  log : List Request := []
  files : FileSystem := {}

namespace ScriptedWorld

/-- The id of a new member if the script does not say. -/
def usualMemberId : Nat := 1000

/-- The number of a lease if the script does not say. -/
def usualLease : LeaseId := 1

/-- The answer to a transaction if the script does not say. -/
def usualResult : Transaction.Result := ⟨true, 0, []⟩

variable {α ρ : Type}

/-- The answer that the first line gives. -/
def respond (now : Instant) (lines : List (Scripted α)) (usual : α)
    (reply : Except ScriptedError α → ρ) : Flight ScriptedWorld ρ :=
  match lines with
  | [] => .answered (reply (.ok usual))
  | .hang :: _ => .never
  | .answer delay result :: _ =>
    let r := reply (result.mapError (⟨·⟩))
    if delay = 0 then .answered r else .arriving (now + delay) r

/-- What a command answers. -/
def serve (now : Instant) (s : Script) :
    (command : Command) → Script × Flight ScriptedWorld (Except ScriptedError command.Reply)
  | .transact _ => ({ s with transact := s.transact.tail }, respond now s.transact usualResult id)
  | .grantLease _ =>
    ({ s with leaseGrant := s.leaseGrant.tail }, respond now s.leaseGrant usualLease id)
  | .revokeLease _ =>
    ({ s with leaseRevoke := s.leaseRevoke.tail }, respond now s.leaseRevoke () id)
  | .authStatus => ({ s with authStatus := s.authStatus.tail }, respond now s.authStatus false id)
  | .addRole _ => ({ s with roleAdd := s.roleAdd.tail }, respond now s.roleAdd () id)
  | .grantPermission .. => ({ s with roleGrant := s.roleGrant.tail }, respond now s.roleGrant () id)
  | .addUser .. => ({ s with userAdd := s.userAdd.tail }, respond now s.userAdd () id)
  | .grantRole .. => ({ s with userGrant := s.userGrant.tail }, respond now s.userGrant () id)
  | .enableAuth => ({ s with authEnable := s.authEnable.tail }, respond now s.authEnable () id)

/-- What a request on the registry answers. -/
def manage (now : Instant) (s : Script) :
    (command : MemberCommand) →
      Script × Flight ScriptedWorld (Except ScriptedError command.Reply)
  | .list => ({ s with memberList := s.memberList.tail }, respond now s.memberList [] id)
  | .add peerUrls =>
    ({ s with memberAdd := s.memberAdd.tail },
      respond now s.memberAdd usualMemberId fun result =>
        result.map fun id => ({ id, name := "", peerUrls, clientUrls := [] } : Member))
  | .remove _ =>
    ({ s with memberRemove := s.memberRemove.tail },
      respond now s.memberRemove () fun result => result.map fun _ => ([] : List Member))

/-- Answers a request. -/
def answer (now : Instant) (s : Script) :
    (r : Request) → Script × Flight ScriptedWorld (r.Reply ScriptedError)
  | .connect _ =>
    ({ s with connect := s.connect.tail },
      respond now s.connect () fun result => result.map fun _ => (⟨0, ""⟩ : Connection))
  | .manage _ command => manage now s command
  | .start config =>
    ({ s with start := s.start.tail },
      respond now s.start () fun result =>
        result.map fun _ => (⟨0, config.name⟩ : ServerHandle))
  | .ready _ => ({ s with ready := s.ready.tail }, respond now s.ready () fun _ => ())
  | .close _ => ({ s with close := s.close.tail }, .answered ())
  | .serve _ _ command => serve now s command
  | .idle => (s, .never)

/-- Takes a request and records it. Waiting for the time to pass is not recorded. -/
def issue (_ : Unit) (now : Instant) (w : ScriptedWorld) (r : Request) :
    ScriptedWorld × Flight ScriptedWorld (r.Reply ScriptedError) :=
  let (script, flight) := answer now w.script r
  ({ w with script, log := if r = .idle then w.log else r :: w.log }, flight)

/-- How requests are answered. -/
def backend : Backend ScriptedWorld Unit ScriptedError :=
  ⟨issue, fun _ w => w, fun _ => none⟩

end ScriptedWorld

end ClusterVault
