import ClusterVault.Engine.Error
import Std.Data.ExtTreeMap
import Std.Data.ExtTreeSet

/-!
# Access control

Once it is switched on, every request is checked against users, the roles they hold and the
permissions of the roles.

## Main definitions

- `AccessControl`: users, roles and whether they count
- `AccessControl.authenticate`, `AccessControl.authorizeAdministrator`,
  `AccessControl.authorizeKey`, `AccessControl.authorizeAll`: the checks
- `AccessControl.addRole`, `AccessControl.grantPermission`, `AccessControl.addUser`,
  `AccessControl.grantRole`, `AccessControl.enable`: the changes

## Design notes

A check answers nothing or the reason it fails, and a change answers the new state or the reason it
is refused, so a change that is refused changes nothing. Whoever holds the role `root` passes every
check. That role exists from the start. Switching access control on is refused until the user `root`
holds it, and there is no way to switch it off or to take a role away.
-/

namespace ClusterVault

/-- The name of the administrator, and of the role that makes one. -/
def administrator : String := "root"

/-- Users, roles and whether they count. -/
structure AccessControl where
  enabled : Bool := false
  /-- The permissions of each role. -/
  roles : Std.ExtTreeMap String (List Permission) := {(administrator, [])}
  /-- The roles that each user holds. -/
  users : Std.ExtTreeMap String (Std.ExtTreeSet String) := ∅

namespace AccessControl

/-- Fails for a user who does not exist. -/
def authenticate (a : AccessControl) (user : String) : Except EngineError Unit :=
  if a.enabled && !a.users.contains user then
    .error (.permissionDenied (.unknownUser user))
  else .ok ()

/-- Fails for a user who is not an administrator. -/
def authorizeAdministrator (a : AccessControl) (user : String) : Except EngineError Unit :=
  if !a.enabled then .ok ()
  else match a.users[user]? with
    | none => .error (.permissionDenied (.unknownUser user))
    | some held =>
      if held.contains administrator then .ok ()
      else .error (.permissionDenied (.notAdministrator user))

/-- Whether a role has a permission for an access to a key. -/
def roleAllows (a : AccessControl) (role : String) (access : Access) (key : Bytes) : Bool :=
  match a.roles[role]? with
  | none => false
  | some permissions => permissions.any fun p => p.covers key && p.allows access

/-- Fails for a user who may not access a key. -/
def authorizeKey (a : AccessControl) (user : String) (access : Access) (key : Bytes) :
    Except EngineError Unit :=
  if !a.enabled then .ok ()
  else match a.users[user]? with
    | none => .error (.permissionDenied (.unknownUser user))
    | some held =>
      if held.contains administrator || held.toList.any (a.roleAllows · access key) then .ok ()
      else .error (.permissionDenied (.keyDenied user access key))

/-- Fails for the first of some accesses that a user may not make. -/
def authorizeAll (a : AccessControl) (user : String) :
    List (Access × Bytes) → Except EngineError Unit
  | [] => .ok ()
  | (access, key) :: rest =>
    match a.authorizeKey user access key with
    | .error e => .error e
    | .ok _ => a.authorizeAll user rest

/-- Adds a role without permissions. -/
def addRole (a : AccessControl) (name : String) : Except EngineError AccessControl :=
  if name.isEmpty then .error (.invalidArgument .emptyRoleName)
  else if a.roles.contains name then .error (.alreadyExists (.role name))
  else .ok { a with roles := a.roles.insert name [] }

/-- Gives the first permission for the same range a new kind, or adds the permission behind all
    others. -/
def grantInto (p : Permission) : List Permission → List Permission
  | [] => [p]
  | q :: rest =>
    if q.key = p.key && q.rangeEnd = p.rangeEnd then { q with kind := p.kind } :: rest
    else q :: grantInto p rest

/-- Gives a role a permission, in place of the one it has for the same range. -/
def grantPermission (a : AccessControl) (role : String) (p : Permission) :
    Except EngineError AccessControl :=
  match a.roles[role]? with
  | none => .error (.notFound (.role role))
  | some permissions => .ok { a with roles := a.roles.insert role (grantInto p permissions) }

/-- Adds a user without roles. -/
def addUser (a : AccessControl) (name : String) : Except EngineError AccessControl :=
  if name.isEmpty then .error (.invalidArgument .emptyUserName)
  else if a.users.contains name then .error (.alreadyExists (.user name))
  else .ok { a with users := a.users.insert name ∅ }

/-- Gives a user a role. -/
def grantRole (a : AccessControl) (user role : String) : Except EngineError AccessControl :=
  if !a.roles.contains role then .error (.notFound (.role role))
  else match a.users[user]? with
    | none => .error (.notFound (.user user))
    | some held => .ok { a with users := a.users.insert user (held.insert role) }

/-- Switches the checks on. -/
def enable (a : AccessControl) : Except EngineError AccessControl :=
  match a.users[administrator]? with
  | none => .error (.invalidArgument .administratorMissing)
  | some held =>
    if held.contains administrator then .ok { a with enabled := true }
    else .error (.invalidArgument .administratorWithoutRole)

end AccessControl

end ClusterVault
