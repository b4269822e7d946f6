import ClusterVault.Node.AuthSetup
import Std.Data.ExtTreeMap

/-!
# Secrets

Secrets are values under ids, written and deleted all or none.

## Main definitions

- `SecretStore`: a server to keep secrets in, and the user to act as
- `SecretStore.set`, `SecretStore.delete`, `SecretStore.get`: the three operations

## Design notes

Every operation is one transaction. Secrets with a time to live share a lease, which is revoked if
they are not written. The transaction that writes looks up every secret that is there already, so
that the answer can name them.
-/

namespace ClusterVault

/-- A server to keep secrets in, and the user to act as. -/
structure SecretStore where
  server : ServerHandle
  user : String
  deriving DecidableEq, Repr

/-- Secrets by id. -/
abbrev Secrets := Std.ExtTreeMap String Bytes

namespace SecretStore

/-- The key of a secret. -/
def key (id : String) : Bytes := Bytes.ofString (secretPrefix ++ id)

/-- Writes secrets none of which may be there. -/
def writing (entries : List (String × Bytes)) (lease : Option LeaseId) : Transaction :=
  { conditions := entries.map fun (id, _) => .absent (key id)
    success := entries.map fun (id, value) => .put (key id) value lease
    failure := entries.map fun (id, _) => .get (key id) }

/-- Deletes secrets all of which must be there. -/
def deleting (ids : List String) : Transaction :=
  { conditions := ids.map fun id => .present (key id)
    success := ids.map fun id => .delete (key id) }

/-- Reads a secret. -/
def reading (id : String) : Transaction := { success := [.get (key id)] }

/-- The ids that a transaction found to be there, from its outcomes in the order of the ids. -/
def conflicts (ids : List String) (outcomes : List Outcome) : List String :=
  ((ids.zip outcomes).filter fun entry => entry.2.records?.any (!·.isEmpty)).map (·.1)

variable {ε : Type}

/-- Runs a transaction. -/
def transact (s : SecretStore) (step : NodeStep) (t : Transaction) :
    Procedure ε Transaction.Result :=
  Procedure.call step (Activity.request (.serve s.server s.user (.transact t)))

/-- Writes secrets in one transaction. -/
def write (s : SecretStore) (entries : List (String × Bytes)) (lease : Option LeaseId) :
    Procedure ε Unit := do
  let result ← s.transact .writing (writing entries lease)
  if result.succeeded then return
  match conflicts (entries.map (·.1)) result.outcomes with
  | [] => throw .writeFailed
  | ids => throw (.secretsExist ids)

/-- Revokes a lease, whether or not that is refused. -/
def revoke (s : SecretStore) (lease : LeaseId) : Activity ε Unit :=
  Activity.bind (Activity.request (.serve s.server s.user (.revokeLease lease))) fun _ => .done ()

/-- Writes all secrets or none. They end after `ttl` seconds if that is positive, and never
    otherwise. -/
def set (s : SecretStore) (secrets : Secrets) (ttl : Int) : Procedure ε Unit := do
  let entries := secrets.toList
  if entries.isEmpty then return
  if ttl > 0 then
    let lease : LeaseId ← Procedure.call .creatingLease
      (Activity.request (.serve s.server s.user (.grantLease ttl)))
    (s.write entries (some lease)).orElse (s.revoke lease)
  else s.write entries none

/-- Deletes all secrets or none. -/
def delete (s : SecretStore) (ids : List String) : Procedure ε Unit := do
  if ids.isEmpty then return
  let result ← s.transact .writing (deleting ids)
  if result.succeeded then return
  throw .secretsMissing

/-- The value of a secret, if it is there. -/
def get (s : SecretStore) (id : String) : Procedure ε (Option Bytes) := do
  let result ← s.transact .reading (reading id)
  return (((result.outcomes.head?.bind (·.records?)).bind (·.head?)).map (·.value))

/-- Stops the server. -/
def close (s : SecretStore) : Activity ε Unit := Activity.request (.close s.server)

end SecretStore

end ClusterVault
