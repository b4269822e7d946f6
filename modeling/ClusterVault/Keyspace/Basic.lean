import ClusterVault.Keyspace.Transaction
import ClusterVault.Time
import Std.Data.ExtTreeMap
import Std.Data.ExtTreeSet

/-!
# Keys and leases

The records of a store, and the leases that records end with.

## Main definitions

- `Keyspace`: records, leases and the revision
- `Keyspace.apply`: runs one operation of a transaction
- `Keyspace.dropLease`: ends a lease
- `Keyspace.expire`: ends the leases whose time has come

## Design notes

The revision counts the changes to the records: one for every transaction that changes a record, and
one for every lease that ends with keys attached. A lease knows the keys that are attached to it,
and a record the lease it is attached to.
-/

namespace ClusterVault

/-- A time limit that keys are attached to. -/
structure Lease where
  deadline : Instant
  /-- The keys that end with the lease. -/
  keys : Std.ExtTreeSet Bytes := ∅

/-- Records, leases and the revision. -/
structure Keyspace where
  revision : Int := 1
  records : Std.ExtTreeMap Bytes Record := ∅
  leases : Std.ExtTreeMap LeaseId Lease := ∅
  /-- The number the next lease gets. -/
  nextLease : LeaseId := 1

namespace Keyspace

/-- Removes a key from a lease, if there is such a lease. -/
def removeFromLease (ks : Keyspace) (id : LeaseId) (key : Bytes) : Keyspace :=
  match ks.leases[id]? with
  | none => ks
  | some l => { ks with leases := ks.leases.insert id { l with keys := l.keys.erase key } }

/-- Adds a key to a lease, if there is such a lease. -/
def addToLease (ks : Keyspace) (id : LeaseId) (key : Bytes) : Keyspace :=
  match ks.leases[id]? with
  | none => ks
  | some l => { ks with leases := ks.leases.insert id { l with keys := l.keys.insert key } }

/-- Detaches a record from its lease. -/
def detach (ks : Keyspace) (r : Record) : Keyspace :=
  match r.lease with
  | none => ks
  | some id => ks.removeFromLease id r.key

/-- Attaches a key to a lease. -/
def attach (ks : Keyspace) (key : Bytes) (lease : Option LeaseId) : Keyspace :=
  match lease with
  | none => ks
  | some id => ks.addToLease id key

/-- The record that a write at the current revision leaves, given what was stored before. -/
def written (ks : Keyspace) (key value : Bytes) (lease : Option LeaseId) :
    Option Record → Record
  | some old =>
    { old with value, modified := ks.revision, version := old.version + 1, lease }
  | none =>
    { key, value, created := ks.revision, modified := ks.revision, version := 1, lease }

/-- Detaches what is stored under a key from its lease. -/
def release (ks : Keyspace) (key : Bytes) : Keyspace :=
  match ks.records[key]? with
  | none => ks
  | some old => ks.detach old

/-- Writes a value under a key. -/
def put (ks : Keyspace) (key value : Bytes) (lease : Option LeaseId) : Keyspace :=
  let record := ks.written key value lease ks.records[key]?
  let ks := (ks.release key).attach key lease
  { ks with records := ks.records.insert key record }

/-- Removes what is stored under a key. -/
def delete (ks : Keyspace) (key : Bytes) : Keyspace :=
  let ks := ks.release key
  { ks with records := ks.records.erase key }

/-- Runs one operation. -/
def apply (ks : Keyspace) : Operation → Outcome × Keyspace
  | .put key value lease => (.put, ks.put key value lease)
  | .get key => (.got ks.records[key]?.toList, ks)
  | .delete key =>
    if ks.records.contains key then (.deleted 1, ks.delete key) else (.deleted 0, ks)

/-- Runs operations one after the other. -/
def applyAll (ks : Keyspace) : List Operation → List Outcome × Keyspace
  | [] => ([], ks)
  | op :: rest =>
    let (outcome, ks) := ks.apply op
    let (outcomes, ks) := ks.applyAll rest
    (outcome :: outcomes, ks)

/-- Whether an operation would change a record. -/
def isChangedBy (ks : Keyspace) : Operation → Bool
  | .put .. => true
  | .get _ => false
  | .delete key => ks.records.contains key

/-- Whether a condition holds. -/
def satisfies (ks : Keyspace) (c : Condition) : Bool := c.holds ks.records[c.key]?

/-- The first lease that operations name and that does not exist. -/
def missingLease? (ks : Keyspace) (ops : List Operation) : Option LeaseId :=
  (ops.filterMap Operation.lease?).find? fun id => !ks.leases.contains id

/-- Moves on to the next revision. -/
def bump (ks : Keyspace) : Keyspace := { ks with revision := ks.revision + 1 }

/-- Runs operations at a new revision if they change a record, and at the current one otherwise. -/
def commit (ks : Keyspace) (ops : List Operation) : List Outcome × Keyspace :=
  (if ops.any ks.isChangedBy then ks.bump else ks).applyAll ops

/-- Ends a lease and removes the keys attached to it. -/
def dropLease (ks : Keyspace) (id : LeaseId) : Keyspace :=
  match ks.leases[id]? with
  | none => ks
  | some l =>
    let ks := { ks with leases := ks.leases.erase id }
    if l.keys.isEmpty then ks
    else { ks.bump with records := l.keys.toList.foldl (·.erase ·) ks.records }

/-- The leases whose time has come. -/
def expired (ks : Keyspace) (now : Instant) : List LeaseId :=
  (ks.leases.filter fun _ l => l.deadline ≤ now).keys

/-- Ends the leases whose time has come. -/
def expire (ks : Keyspace) (now : Instant) : Keyspace :=
  (ks.expired now).foldl dropLease ks

/-- Starts a lease that ends at the given instant. -/
def grantLease (ks : Keyspace) (deadline : Instant) : Keyspace :=
  { ks with leases := ks.leases.insert ks.nextLease { deadline }, nextLease := ks.nextLease + 1 }

end Keyspace

end ClusterVault
