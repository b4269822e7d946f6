import ClusterVault.Proofs.Cluster.Authority
import ClusterVault.Proofs.Cluster.Confinement

/-!
# Requests of strangers

While access control is on, a user who does not exist is refused whatever names a key, a lease, a
role, a user or a member. The refusal tells nothing of what is stored but whether a lease is there. A
transaction is checked key by key, so one that names no key passes: anyone can learn the revision.

## Main definitions

- `Command.namesNoKey`: the transactions that are not checked at all
- `Command.refusal`: why the request of a stranger is refused

## Main statements

- `Cluster.strangers_are_refused`: all other requests of a stranger are refused and change nothing
- `Cluster.stranger_learns_revision`: a transaction without keys is not
-/

namespace ClusterVault

namespace Command

/-- The request is a transaction without conditions and operations. -/
def namesNoKey : Command → Bool
  | .transact t => (Cluster.demands t).isEmpty
  | _ => false

/-- Why the request of a user who does not exist is refused, given which leases are there. -/
def refusal (user : String) (limit : Nat) (hasLease : LeaseId → Bool) : Command → EngineError
  | .transact t =>
    if t.maxBranchLength ≤ limit ∧ t.conditions.length ≤ limit then
      .permissionDenied (.unknownUser user)
    else .invalidArgument (.tooManyOperations limit)
  | .revokeLease id =>
    if hasLease id then .permissionDenied (.unknownUser user) else .notFound (.lease id)
  | _ => .permissionDenied (.unknownUser user)

end Command

namespace AccessControl

variable {a : AccessControl} {user : String} {demands : List (Access × Bytes)}

theorem getElem?_users_of_stranger (hstranger : a.users.contains user = false) :
    a.users[user]? = none := by
  rw [← Option.not_isSome_iff_eq_none, ← Std.ExtTreeMap.contains_eq_isSome_getElem?, hstranger]
  exact Bool.false_ne_true

section Stranger

variable (hon : a.enabled) (hstranger : a.users.contains user = false)

include hon hstranger

theorem authenticate_of_stranger :
    a.authenticate user = .error (.permissionDenied (.unknownUser user)) := by
  simp [authenticate, hon, hstranger]

theorem authorizeAdministrator_of_stranger :
    a.authorizeAdministrator user = .error (.permissionDenied (.unknownUser user)) := by
  simp [authorizeAdministrator, hon, getElem?_users_of_stranger hstranger]

theorem authorizeAll_of_stranger (hne : demands ≠ []) :
    a.authorizeAll user demands = .error (.permissionDenied (.unknownUser user)) := by
  cases demands with
  | nil => exact absurd rfl hne
  | cons demand demands =>
    have hkey : a.authorizeKey user demand.1 demand.2 =
        .error (.permissionDenied (.unknownUser user)) := by
      simp [authorizeKey, hon, getElem?_users_of_stranger hstranger]
    simp [authorizeAll, hkey]

end Stranger

end AccessControl

namespace Cluster

variable {c : Cluster} {user : String} {now : Instant} {limit : Nat} {t : Transaction}
  {command : Command}

/-- A transaction without conditions and operations is accepted from anyone. -/
theorem transact_of_demands_eq_nil (h : demands t = []) :
    c.transact user limit t = .ok (⟨true, c.keyspace.revision, []⟩, c) := by
  obtain ⟨hconditions, hops⟩ := List.append_eq_nil_iff.1 h
  rw [List.map_eq_nil_iff] at hconditions hops
  obtain ⟨hsuccess, hfailure⟩ := List.append_eq_nil_iff.1 hops
  obtain ⟨conditions, success, failure⟩ := t
  subst hconditions hsuccess hfailure
  rw [transact_eq, if_pos ⟨Nat.zero_le limit, Nat.zero_le limit⟩]
  rfl

section Stranger

variable (hon : c.access.enabled) (hstranger : c.access.users.contains user = false)

include hon hstranger

theorem transact_of_stranger (hne : demands t ≠ []) :
    c.transact user limit t =
      .error ((Command.transact t).refusal user limit c.keyspace.leases.contains) := by
  rw [transact_eq, AccessControl.authorizeAll_of_stranger hon hstranger hne, Command.refusal]
  split
  · rfl
  · rfl

theorem revokeLease_of_stranger (limit : Nat) (id : LeaseId) :
    c.revokeLease user id =
      .error ((Command.revokeLease id).refusal user limit c.keyspace.leases.contains) := by
  rw [revokeLease, Command.refusal, Std.ExtTreeMap.contains_eq_isSome_getElem?]
  cases c.keyspace.leases[id]? with
  | none => rfl
  | some lease =>
    simp only [AccessControl.authenticate_of_stranger hon hstranger]
    rfl

/-- A stranger is refused whatever names something. -/
theorem handle_of_stranger (hcommand : command.namesNoKey = false) :
    c.handle user now limit command =
      .error (command.refusal user limit c.keyspace.leases.contains) := by
  have hunknown := AccessControl.authenticate_of_stranger hon hstranger
  have hadminister := AccessControl.authorizeAdministrator_of_stranger hon hstranger
  cases command with
  | transact t =>
    have hne : demands t ≠ [] := by simpa [Command.namesNoKey] using hcommand
    exact transact_of_stranger hon hstranger hne
  | grantLease ttl =>
    show c.grantLease user now ttl = _
    rw [grantLease, hunknown]
    rfl
  | revokeLease id =>
    show plain (c.revokeLease user id) = _
    rw [revokeLease_of_stranger hon hstranger limit]
    rfl
  | authStatus =>
    show (c.authStatus user).map _ = _
    rw [authStatus, hunknown]
    rfl
  | addRole | grantPermission | addUser | grantRole =>
    show plain (c.administer user _) = _
    rw [administer_of_error hadminister]
    rfl
  | enableAuth =>
    show plain (c.enableAuth user) = _
    rw [enableAuth_of_enabled hon, hunknown]
    rfl

/-- While access control is on, every request of a user who does not exist is refused, save a
    transaction without conditions and operations. Time goes on as it would have without the request,
    and nothing else changes. The refusal depends on nothing that is stored but on whether the lease
    that is named is there, and the transaction that is not refused tells the revision only. -/
theorem strangers_are_refused :
    (∀ now limit command, command.namesNoKey = false →
      c.serve user now limit command =
        (.error (command.refusal user limit (c.expire now).keyspace.leases.contains),
          c.expire now)) ∧
    (∀ now ids command, c.manage user now ids command =
      (.error (.permissionDenied (.unknownUser user)), ids, c.expire now)) ∧
    ∀ now limit t, (Command.transact t).namesNoKey →
      c.serve user now limit (.transact t) =
        (.ok ⟨true, (c.expire now).keyspace.revision, []⟩, c.expire now) := by
  refine ⟨?_, ?_, ?_⟩
  · intro now limit command hcommand
    have hexpired : (c.expire now).access.enabled := hon
    exact serve_of_handle_eq_error (handle_of_stranger hexpired hstranger hcommand)
  · intro now ids command
    have hexpired : (c.expire now).access.enabled := hon
    rw [manage_eq_changeRegistry]
    exact changeRegistry_of_error
      (AccessControl.authorizeAdministrator_of_stranger hexpired hstranger) ids command
  · intro now limit t ht
    have hdemands : demands t = [] := by simpa [Command.namesNoKey] using ht
    have hhandle : (c.expire now).handle user now limit (.transact t) = _ :=
      transact_of_demands_eq_nil hdemands
    exact serve_of_handle_eq_ok hhandle

end Stranger

/-- A stranger cannot end a lease, learns no more of it than that it is there, and reads nothing. -/
theorem strangers_are_refused_foreign_lease :
    let setUp : List Command := [.grantLease 5,
      .transact { success := [.put [97] [1] (some 1)] }, .addUser "root" true,
      .grantRole "root" "root", .enableAuth]
    let c := setUp.foldl (fun c command => (c.serve "root" 0 1 command).2) (founded [])
    let reading : Transaction := { conditions := [.absent [97]], failure := [.get [97]] }
    c.serve "eve" 1 1 (.revokeLease 1) =
        (.error (.permissionDenied (.unknownUser "eve")), c.expire 1) ∧
      c.serve "eve" 1 1 (.revokeLease 2) = (.error (.notFound (.lease 2)), c.expire 1) ∧
      c.serve "eve" 1 1 (.transact reading) =
        (.error (.permissionDenied (.unknownUser "eve")), c.expire 1) := by
  intro setUp c reading
  have hon : c.access.enabled := by decide +kernel
  have hstranger : c.access.users.contains "eve" = false := by decide +kernel
  obtain ⟨hserve, -, -⟩ := strangers_are_refused hon hstranger
  have hthere : (c.expire 1).keyspace.leases.contains 1 = true := by decide +kernel
  have hmissing : (c.expire 1).keyspace.leases.contains 2 = false := by decide +kernel
  refine ⟨?_, ?_, ?_⟩
  · rw [hserve 1 1 (.revokeLease 1) rfl, Command.refusal, hthere]
    rfl
  · rw [hserve 1 1 (.revokeLease 2) rfl, Command.refusal, hmissing]
    rfl
  · rw [hserve 1 1 (.transact reading) rfl]
    rfl

/-- A transaction that names no key tells a stranger the revision, although access control is on. -/
theorem stranger_learns_revision :
    let setUp : List Command := [.transact { success := [.put [97] [1] none] }, .addUser "root" true,
      .grantRole "root" "root", .enableAuth]
    let c := setUp.foldl (fun c command => (c.serve "root" 0 1 command).2) (founded [])
    c.Reachable ∧ c.access.enabled ∧ c.access.users.contains "eve" = false ∧
      (c.serve "eve" 1 1 (.transact {})).1 = .ok ⟨true, 2, []⟩ := by
  intro setUp c
  have hfounded : (founded []).Reachable := ⟨[], [], .nil _⟩
  refine ⟨hfounded.foldl_serve "root" 0 1 setUp, ?_, ?_, ?_⟩
  · decide +kernel
  · decide +kernel
  · decide +kernel

end Cluster

end ClusterVault
