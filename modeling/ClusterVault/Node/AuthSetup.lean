import ClusterVault.Node.Procedure

/-!
# Setting up access control

A new store lets anyone in. Before it is used, access control is set up and switched on.

## Main definitions

- `secretPrefix`, `clientPrincipal`: where secrets are kept, and who may read them
- `setUpAuth`: sets up access control

## Design notes

Roles and users that are there already are kept, so a run that was interrupted can be made again.
Users get the role of their own name.
-/

namespace ClusterVault

/-- What the keys of all secrets begin with. -/
def secretPrefix : String := "inference-secrets/"

/-- The user that reads secrets, and its role. -/
def clientPrincipal : String := "secret-service-client"

/-- The permission to read all secrets. -/
def secretsPermission : Permission := Permission.startingWith (Bytes.ofString secretPrefix) .read

variable {ε : Type} [EngineFault ε]

/-- Waits until something has been added. It is also well if it was there. -/
def ensureAdded (step : NodeStep) (answer : Activity ε (Except ε Unit)) : Procedure ε Unit := do
  match ← Procedure.ofActivity answer with
  | .ok _ => pure ()
  | .error e =>
    if EngineFault.kind e = .alreadyExists then pure () else throw (.engine step e)

/-- Adds a user and gives it the role of its name. -/
def setUpUser (server : ServerHandle) (user name : String) : Procedure ε Unit := do
  ensureAdded .addingUser (Activity.request (.serve server user (.addUser name true)))
  Procedure.call .grantingRole (Activity.request (.serve server user (.grantRole name name)))

/-- Sets up access control through a server, acting as a user. Nothing is done if it is on. -/
def setUpAuth (server : ServerHandle) (user : String) : Procedure ε Unit := do
  let enabled : Bool ← Procedure.call .checkingAuth
    (Activity.request (.serve server user .authStatus))
  if enabled then return
  ensureAdded .addingClientRole
    (Activity.request (.serve server user (.addRole clientPrincipal)))
  Procedure.call .grantingPermission
    (Activity.request (.serve server user (.grantPermission clientPrincipal secretsPermission)))
  setUpUser server user administrator
  setUpUser server user clientPrincipal
  Procedure.call .enablingAuth (Activity.request (.serve server user .enableAuth))

end ClusterVault
