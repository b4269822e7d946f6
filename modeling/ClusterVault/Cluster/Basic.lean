import ClusterVault.Access.Control
import ClusterVault.Cluster.IdSource
import ClusterVault.Keyspace.Basic

/-!
# Clusters

The state that all members of a cluster share, and the requests on it.

## Main definitions

- `Cluster`: keys, access control and members
- `Cluster.transact`, `Cluster.grantLease`, `Cluster.revokeLease`: requests on the keys
- `Cluster.attachMember`, `Cluster.addMember`, `Cluster.removeMember`: requests on the registry

## Design notes

A request answers a result and the state after it, or an error. With an error there is no new state:
a request that is refused changes nothing.
-/

namespace ClusterVault

/-- The state that all members of a cluster share. -/
structure Cluster where
  keyspace : Keyspace := {}
  access : AccessControl := {}
  members : List Member

namespace Cluster

/-- Ends the leases whose time has come. -/
def expire (c : Cluster) (now : Instant) : Cluster :=
  { c with keyspace := c.keyspace.expire now }

/-- The access that an operation needs to its key. -/
def accessFor : Operation → Access
  | .get _ => .read
  | _ => .write

/-- The accesses that a transaction asks for, conditions first and then both lists of operations. -/
def demands (t : Transaction) : List (Access × Bytes) :=
  t.conditions.map (fun c => (.read, c.key)) ++
    (t.success ++ t.failure).map fun op => (accessFor op, op.key)

/-- Runs a transaction for a user, with at most `limit` conditions and operations. -/
def transact (c : Cluster) (user : String) (limit : Nat) (t : Transaction) :
    Except EngineError (Transaction.Result × Cluster) := do
  if t.maxBranchLength > limit || t.conditions.length > limit then
    throw (.invalidArgument (.tooManyOperations limit))
  c.access.authorizeAll user (demands t)
  let succeeded := t.conditions.all c.keyspace.satisfies
  let ops := if succeeded then t.success else t.failure
  match c.keyspace.missingLease? ops with
  | some id => throw (.notFound (.lease id))
  | none =>
    let (outcomes, keyspace) := c.keyspace.commit ops
    return (⟨succeeded, keyspace.revision, outcomes⟩, { c with keyspace })

/-- Starts a lease for a user that ends `ttl` seconds after `now`, and answers its number. -/
def grantLease (c : Cluster) (user : String) (now : Instant) (ttl : Int) :
    Except EngineError (LeaseId × Cluster) := do
  c.access.authenticate user
  if ttl ≤ 0 then throw (.invalidArgument (.leaseNotPositive ttl))
  match now.ofSecondsAfter? ttl.toNat with
  | none => throw (.invalidArgument (.leaseTooLong ttl))
  | some deadline =>
    return (c.keyspace.nextLease, { c with keyspace := c.keyspace.grantLease deadline })

/-- Ends a lease for a user, who must be allowed to write all keys attached to it. -/
def revokeLease (c : Cluster) (user : String) (id : LeaseId) : Except EngineError Cluster := do
  match c.keyspace.leases[id]? with
  | none => throw (.notFound (.lease id))
  | some lease =>
    c.access.authenticate user
    c.access.authorizeAll user (lease.keys.toList.map (.write, ·))
    return { c with keyspace := c.keyspace.dropLease id }

/-- Whether access control is on, for a user who exists. -/
def authStatus (c : Cluster) (user : String) : Except EngineError Bool := do
  c.access.authenticate user
  return c.access.enabled

/-- Changes access control for an administrator. -/
def administer (c : Cluster) (user : String)
    (change : AccessControl → Except EngineError AccessControl) : Except EngineError Cluster := do
  c.access.authorizeAdministrator user
  return { c with access := ← change c.access }

/-- Switches access control on. Once it is on, any user who exists may ask for it again. -/
def enableAuth (c : Cluster) (user : String) : Except EngineError Cluster := do
  if c.access.enabled then
    c.access.authenticate user
    return c
  else return { c with access := ← c.access.enable }

/-- Whether a member is registered under one of the given URLs. -/
def isRegisteredAt (urls : List Url) (m : Member) : Bool := m.peerUrls.any urls.contains

/-- Gives the first member that a test picks a name and client URLs. -/
def nameFirst (test : Member → Bool) (name : String) (clientUrls : List Url) :
    List Member → List Member
  | [] => []
  | m :: rest =>
    if test m then { m with name, clientUrls } :: rest
    else m :: nameFirst test name clientUrls rest

/-- Names the member registered under one of a server's URLs after the server, and answers its
    id. -/
def attachMember (c : Cluster) (name : String) (peerUrls clientUrls : List Url) :
    Except EngineError (Nat × Cluster) :=
  match c.members.find? (isRegisteredAt peerUrls) with
  | none => .error (.notFound (.registration peerUrls))
  | some m =>
    .ok (m.id, { c with
      members := nameFirst (isRegisteredAt peerUrls) name clientUrls c.members })

/-- Whether a member is registered under an id. -/
def hasMember (c : Cluster) (id : Nat) : Bool := c.members.any (·.id = id)

/-- The registry, for an administrator. -/
def listMembers (c : Cluster) (user : String) : Except EngineError (List Member) := do
  c.access.authorizeAdministrator user
  return c.members

/-- Registers a member that has not started yet, for an administrator. -/
def addMember (c : Cluster) (user : String) (ids : IdSource) (peerUrls : List Url) :
    Except EngineError (Member × IdSource × Cluster) := do
  c.access.authorizeAdministrator user
  if peerUrls.isEmpty then throw (.invalidArgument .memberWithoutPeerUrls)
  match peerUrls.find? fun url => c.members.any (·.peerUrls.contains url) with
  | some url => throw (.alreadyExists (.memberAt url))
  | none =>
    let (id, ids) := ids.fresh (c.members.map (·.id))
    let member : Member := { id, name := "", peerUrls, clientUrls := [] }
    return (member, ids, { c with members := c.members ++ [member] })

/-- Removes a member from the registry, for an administrator. -/
def removeMember (c : Cluster) (user : String) (id : Nat) : Except EngineError Cluster := do
  c.access.authorizeAdministrator user
  if c.hasMember id then return { c with members := c.members.eraseP (·.id = id) }
  else throw (.notFound (.member id))

end Cluster

end ClusterVault
