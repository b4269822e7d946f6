import ClusterVault.Node.AuthSetup
import ClusterVault.Proofs.Access.Permission
import ClusterVault.Proofs.Cluster.Trusted
import Mathlib.Control.Monad.Basic

/-!
# Stages of setting up access control

Access control is set up by eight requests. Whoever sends one of them has seen those before it
through, and a request that was carried out before changes nothing. So the rights are always what
some first part of the requests comes to, however several attempts to set them up mix. This module
follows the rights through these stages and says what they are in the end.

## Main definitions

- `setUpCommands`: the requests
- `AccessControl.proceed?`: what a request leaves, where a refusal may be borne
- `AccessControl.stage`: the rights after the first requests
- `AccessControl.complete`: the rights in the end
-/

namespace ClusterVault

deriving instance DecidableEq for AccessControl

/-- The requests that set up access control, in their order. -/
def setUpCommands : List Command :=
  [.authStatus, .addRole clientPrincipal, .grantPermission clientPrincipal secretsPermission,
    .addUser administrator true, .grantRole administrator administrator,
    .addUser clientPrincipal true, .grantRole clientPrincipal clientPrincipal, .enableAuth]

namespace Command

/-- Whether a request changes users or roles. -/
def administers : Command → Bool
  | .addRole _ | .grantPermission .. | .addUser .. | .grantRole .. => true
  | _ => false

/-- Whether setting up goes on after this refusal of a request. -/
def bears : Command → EngineError → Bool
  | .addRole _, e | .addUser .., e => e.kind = .alreadyExists
  | _, _ => false

/-- Setting up goes on after this reply to a request. -/
def Accepts (command : Command) : Except EngineError command.Reply → Prop
  | .ok _ => True
  | .error e => command.bears e

end Command

namespace AccessControl

/-- What a request leaves, if setting up goes on after it. -/
def proceed? (a : AccessControl) (command : Command) : Option AccessControl :=
  match a.carryOut command with
  | .ok a' => some a'
  | .error e => if command.bears e then some a else none

/-- The rights after the first so many requests. -/
def stage : Nat → AccessControl
  | 0 => {}
  | n + 1 => (setUpCommands[n]?.bind (stage n).proceed?).getD (stage n)

/-- The rights once access control is set up. -/
def complete : AccessControl where
  enabled := true
  roles := {(clientPrincipal, [secretsPermission]), (administrator, [])}
  users := {(clientPrincipal, {clientPrincipal}), (administrator, {administrator})}

variable {a : AccessControl} {n m : Nat} {command : Command} {key : Bytes}

/-! ## The stages -/

/-- A request leads on to the next stage, or changes nothing if it was carried out before. In either
    case setting up goes on. There are few enough stages and requests to try them all. -/
theorem proceed?_stage (hn : n ≤ 8) (hm : m ≤ n) (hcommand : setUpCommands[m]? = some command) :
    (stage n).proceed? command = some (stage (max n (m + 1))) := by
  have hall : ∀ n ≤ 8, ∀ m ≤ n, ∀ command ∈ setUpCommands[m]?,
      (stage n).proceed? command = some (stage (max n (m + 1))) := by decide +kernel
  exact hall n hn m hm command hcommand

/-- The checks are switched on last. -/
theorem enabled_stage (hn : n ≤ 8) : (stage n).enabled = decide (n = 8) := by
  have hall : ∀ n ≤ 8, (stage n).enabled = decide (n = 8) := by decide +kernel
  exact hall n hn

/-- At no stage the administrator is locked out. -/
theorem trusts_stage (hn : n ≤ 8) : (stage n).Trusts administrator := by
  have hall : ∀ n ≤ 8, (stage n).Trusts administrator := by decide +kernel
  exact hall n hn

theorem stage_eight : stage 8 = complete := by decide +kernel

/-! ## What the client may do in the end -/

theorem authorizeKey_complete (access : Access) (key : Bytes) :
    complete.authorizeKey clientPrincipal access key =
      if secretsPermission.covers key && secretsPermission.allows access then .ok ()
      else .error (.permissionDenied (.keyDenied clientPrincipal access key)) := by
  have husers : complete.users[clientPrincipal]? = some {clientPrincipal} := by decide +kernel
  have hroles : complete.roles[clientPrincipal]? = some [secretsPermission] := by decide +kernel
  have hplain : ({clientPrincipal} : Std.ExtTreeSet String).contains administrator = false := by
    decide +kernel
  have hheld : ({clientPrincipal} : Std.ExtTreeSet String).toList = [clientPrincipal] := by
    decide +kernel
  have hon : complete.enabled = true := rfl
  rw [authorizeKey, husers, hon]
  simp only [Bool.not_true, Bool.false_eq_true, if_false, hplain, Bool.false_or, hheld,
    List.any_cons, List.any_nil, Bool.or_false, roleAllows, hroles]

/-- The client may read what begins like a secret. -/
theorem authorizeKey_read_complete :
    complete.authorizeKey clientPrincipal .read key = .ok () ↔
      Bytes.ofString secretPrefix <+: key := by
  rw [authorizeKey_complete, ← Permission.covers_startingWith_iff _ _ .read]
  show (if secretsPermission.covers key && true then _ else _) = _ ↔ secretsPermission.covers key
  rw [Bool.and_true]
  split <;> simp_all

theorem authorizeKey_write_complete :
    complete.authorizeKey clientPrincipal .write key ≠ .ok () := by
  rw [authorizeKey_complete]
  show (if secretsPermission.covers key && false then _ else _) ≠ _
  rw [Bool.and_false]
  simp

theorem authenticate_complete : complete.authenticate clientPrincipal = .ok () := by
  decide +kernel

theorem authorizeAdministrator_complete :
    complete.authorizeAdministrator clientPrincipal =
      .error (.permissionDenied (.notAdministrator clientPrincipal)) := by
  decide +kernel

end AccessControl

/-! ## Requests on access control -/

namespace Cluster

variable {c : Cluster} {user : String} {now : Instant} {limit : Nat} {command : Command}
  {access : AccessControl}

/-- A request after which setting up goes on leaves the rights that it should. -/
theorem serve_of_proceed? (h : c.access.Trusts user) (hcommand : command.concernsAccess)
    (hproceed : c.access.proceed? command = some access) (now : Instant) (limit : Nat) :
    command.Accepts (c.serve user now limit command).1 ∧
      (c.serve user now limit command).2.access = access := by
  have htrusts : (c.expire now).access.Trusts user := h
  rw [AccessControl.proceed?] at hproceed
  rcases handle_cases_of_trusts htrusts hcommand now limit with
    ⟨e, hcarried, hhandle⟩ | ⟨reply, access', hcarried, hhandle⟩
  · have hrefused : c.access.carryOut command = .error e := hcarried
    rw [hrefused] at hproceed
    dsimp only at hproceed
    split at hproceed
    · next hbears =>
      cases hproceed
      rw [serve_of_handle_eq_error hhandle]
      exact ⟨hbears, rfl⟩
    · cases hproceed
  · have hdone : c.access.carryOut command = .ok access' := hcarried
    rw [hdone] at hproceed
    cases hproceed
    rw [serve_of_handle_eq_ok hhandle]
    exact ⟨trivial, rfl⟩

end Cluster

end ClusterVault
