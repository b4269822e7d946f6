import ClusterVault.Cluster.Basic

/-!
# Commands

What can be asked of a cluster, through a server or through a client.

## Main definitions

- `Command`, `Command.Reply`: requests through a server, and what they answer
- `Cluster.serve`: a request at an instant, with the state after it
- `MemberCommand`, `MemberCommand.Reply`: requests on the registry through a client
- `Cluster.manage`: a request on the registry at an instant

## Design notes

Leases end when the next request looks: every request first ends those whose time has come, and that
stays so even if the request is then refused.
-/

namespace ClusterVault

/-- A request through a server. -/
inductive Command where
  | transact (t : Transaction)
  | grantLease (ttl : Int)
  | revokeLease (id : LeaseId)
  | authStatus
  | addRole (name : String)
  | grantPermission (role : String) (permission : Permission)
  /-- Adds a user. Users always show a certificate, so a password is never used. -/
  | addUser (name : String) (noPassword : Bool)
  | grantRole (user role : String)
  | enableAuth
  deriving DecidableEq, Repr

/-- What a request through a server answers. -/
def Command.Reply : Command → Type
  | transact _ => Transaction.Result
  | grantLease _ => LeaseId
  | authStatus => Bool
  | _ => Unit

/-- A request on the registry of members. -/
inductive MemberCommand where
  | list
  | add (peerUrls : List Url)
  | remove (id : Nat)
  deriving DecidableEq, Repr

/-- What a request on the registry answers: adding the new member, the others the registry. -/
def MemberCommand.Reply : MemberCommand → Type
  | add _ => Member
  | _ => List Member

namespace Cluster

/-- The answer to a request without a result. -/
def plain (result : Except EngineError Cluster) : Except EngineError (Unit × Cluster) :=
  result.map ((), ·)

/-- Answers a request of a user, or refuses it. -/
def handle (c : Cluster) (user : String) (now : Instant) (limit : Nat) :
    (command : Command) → Except EngineError (command.Reply × Cluster)
  | .transact t => c.transact user limit t
  | .grantLease ttl => c.grantLease user now ttl
  | .revokeLease id => plain (c.revokeLease user id)
  | .authStatus => (c.authStatus user).map (·, c)
  | .addRole name => plain (c.administer user (·.addRole name))
  | .grantPermission role p => plain (c.administer user (·.grantPermission role p))
  | .addUser name _ => plain (c.administer user (·.addUser name))
  | .grantRole name role => plain (c.administer user (·.grantRole name role))
  | .enableAuth => plain (c.enableAuth user)

/-- The answer to a request of a user at an instant, and the state after it. -/
def serve (c : Cluster) (user : String) (now : Instant) (limit : Nat) (command : Command) :
    Except EngineError command.Reply × Cluster :=
  let c := c.expire now
  match c.handle user now limit command with
  | .ok (reply, c) => (.ok reply, c)
  | .error e => (.error e, c)

/-- The answer to a request on the registry at an instant, and the state after it. -/
def manage (c : Cluster) (user : String) (now : Instant) (ids : IdSource) :
    (command : MemberCommand) → Except EngineError command.Reply × IdSource × Cluster
  | .list =>
    let c := c.expire now
    (c.listMembers user, ids, c)
  | .add peerUrls =>
    let c := c.expire now
    match c.addMember user ids peerUrls with
    | .ok (member, ids, c) => (.ok member, ids, c)
    | .error e => (.error e, ids, c)
  | .remove id =>
    let c := c.expire now
    match c.removeMember user id with
    | .ok c => (.ok c.members, ids, c)
    | .error e => (.error e, ids, c)

end Cluster

end ClusterVault
