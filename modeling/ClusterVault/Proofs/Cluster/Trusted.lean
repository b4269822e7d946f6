import ClusterVault.Network.Client
import ClusterVault.Proofs.Cluster.Run

/-!
# Requests of trusted users

Whoever holds the role of the administrator passes every check, and so does anyone while the checks
are off. What such a user asks for is refused only for a reason in what is stored. This module says
so for the three requests on keys and leases and for those on access control, and brings requests to
the server they are made through.

## Main definitions

- `AccessControl.Trusts`: who passes every check
- `AccessControl.carryOut`: what a request on access control does that has passed the checks
- `Cluster.attempt`: a transaction of someone who does
- `Network.limitAt?`: the limit of a server through which requests get to a cluster
-/

namespace ClusterVault

/-- Whether a request is about access control. -/
def Command.concernsAccess : Command → Bool
  | .transact _ | .grantLease _ | .revokeLease _ => false
  | _ => true

namespace AccessControl

/-- What a request on access control does that has passed the checks. -/
def carryOut (a : AccessControl) : Command → Except EngineError AccessControl
  | .addRole name => a.addRole name
  | .grantPermission role p => a.grantPermission role p
  | .addUser name _ => a.addUser name
  | .grantRole user role => a.grantRole user role
  | .enableAuth => if a.enabled then .ok a else a.enable
  | _ => .ok a

/-- The user passes every check. -/
def Trusts (a : AccessControl) (user : String) : Prop :=
  a.enabled = false ∨ ∃ held ∈ a.users[user]?, held.contains administrator

instance (a : AccessControl) (user : String) : Decidable (a.Trusts user) :=
  inferInstanceAs (Decidable (_ ∨ _))

variable {a : AccessControl} {user : String}

theorem Trusts.authenticate (h : a.Trusts user) : a.authenticate user = .ok () := by
  rw [AccessControl.authenticate]
  rcases h with hoff | ⟨held, hheld, -⟩
  · simp [hoff]
  · have hknown : a.users.contains user = true := by
      rw [Std.ExtTreeMap.contains_eq_isSome_getElem?, Option.mem_def.1 hheld]
      rfl
    simp [hknown]

theorem Trusts.authorizeAdministrator (h : a.Trusts user) :
    a.authorizeAdministrator user = .ok () := by
  rw [AccessControl.authorizeAdministrator]
  rcases h with hoff | ⟨held, hheld, hadministrator⟩
  · simp [hoff]
  · rw [Option.mem_def] at hheld
    simp only [hheld, hadministrator, if_true, ite_self]

theorem Trusts.authorizeKey (h : a.Trusts user) (access : Access) (key : Bytes) :
    a.authorizeKey user access key = .ok () := by
  rw [AccessControl.authorizeKey]
  rcases h with hoff | ⟨held, hheld, hadministrator⟩
  · simp [hoff]
  · rw [Option.mem_def] at hheld
    simp only [hheld, hadministrator, Bool.true_or, if_true, ite_self]

theorem Trusts.authorizeAll (h : a.Trusts user) (demands : List (Access × Bytes)) :
    a.authorizeAll user demands = .ok () := by
  induction demands with
  | nil => rfl
  | cons demand demands ih =>
    obtain ⟨access, key⟩ := demand
    rw [AccessControl.authorizeAll, h.authorizeKey]
    exact ih

end AccessControl

namespace Cluster

variable {c : Cluster} {user : String} {now : Instant} {limit : Nat} {t : Transaction}
  {command : Command}

/-- What a transaction comes to that has passed all checks but that of its leases. -/
def attempt (c : Cluster) (t : Transaction) : Except EngineError Transaction.Result × Cluster :=
  match c.keyspace.missingLease? (c.branch t) with
  | some id => (.error (.notFound (.lease id)), c)
  | none => (.ok (c.accepted t).1, (c.accepted t).2)

theorem attempt_of_leasesExist (h : c.keyspace.LeasesExist (c.branch t)) :
    c.attempt t = (.ok (c.accepted t).1, (c.accepted t).2) := by
  rw [attempt, Keyspace.missingLease?_eq_none.2 h]

theorem administer_of_trusts (h : c.access.Trusts user)
    (change : AccessControl → Except EngineError AccessControl) :
    c.administer user change = (change c.access).map fun access => { c with access } := by
  rw [administer, h.authorizeAdministrator]
  show (change c.access >>= fun access => _) = _
  cases change c.access <;> rfl

/-- A request of a trusted user on access control does to the rights what it says, and nothing
    else. -/
theorem handle_cases_of_trusts (h : c.access.Trusts user) (hcommand : command.concernsAccess)
    (now : Instant) (limit : Nat) :
    (∃ e, c.access.carryOut command = .error e ∧ c.handle user now limit command = .error e) ∨
    ∃ reply access, c.access.carryOut command = .ok access ∧
      c.handle user now limit command = .ok (reply, { c with access }) := by
  have hplain (change : AccessControl → Except EngineError AccessControl) :
      (∃ e, change c.access = .error e ∧ plain (c.administer user change) = .error e) ∨
      ∃ reply access, change c.access = .ok access ∧
        plain (c.administer user change) = .ok (reply, { c with access }) := by
    rw [administer_of_trusts h]
    cases change c.access with
    | error e => exact .inl ⟨e, rfl, rfl⟩
    | ok access => exact .inr ⟨(), access, rfl, rfl⟩
  cases command with
  | transact | grantLease | revokeLease => cases hcommand
  | authStatus =>
    refine .inr ⟨c.access.enabled, c.access, rfl, ?_⟩
    show (c.authStatus user).map (·, c) = _
    rw [authStatus, h.authenticate]
    rfl
  | addRole name => exact hplain (·.addRole name)
  | grantPermission role p => exact hplain (·.grantPermission role p)
  | addUser name => exact hplain (·.addUser name)
  | grantRole name role => exact hplain (·.grantRole name role)
  | enableAuth =>
    show (∃ e, _ ∧ plain (c.enableAuth user) = _) ∨ ∃ reply access, _ ∧ plain (c.enableAuth user) = _
    rw [enableAuth, AccessControl.carryOut]
    split
    · rw [h.authenticate]
      exact .inr ⟨(), c.access, rfl, rfl⟩
    · cases c.access.enable with
      | error e => exact .inl ⟨e, rfl, rfl⟩
      | ok access => exact .inr ⟨(), access, rfl, rfl⟩

theorem transact_of_trusts (h : c.access.Trusts user) (hlength : t.maxBranchLength ≤ limit)
    (hconditions : t.conditions.length ≤ limit) :
    c.transact user limit t =
      match c.keyspace.missingLease? (c.branch t) with
      | some id => .error (.notFound (.lease id))
      | none => .ok (c.accepted t) := by
  have hchecks := transact_eq c user limit t
  rw [if_pos ⟨hlength, hconditions⟩, h.authorizeAll] at hchecks
  exact hchecks

theorem grantLease_of_trusts (h : c.access.Trusts user) {ttl : Int} (hpos : 0 < ttl) :
    c.grantLease user now ttl =
      match now.ofSecondsAfter? ttl.toNat with
      | none => .error (.invalidArgument (.leaseTooLong ttl))
      | some deadline =>
        .ok (c.keyspace.nextLease, { c with keyspace := c.keyspace.grantLease deadline }) := by
  have hpositive : ¬ttl ≤ 0 := by omega
  rw [grantLease, h.authenticate]
  simp only [bind, Except.bind, hpositive, if_false]
  cases now.ofSecondsAfter? ttl.toNat <;> rfl

theorem revokeLease_of_trusts (h : c.access.Trusts user) (id : LeaseId) :
    c.revokeLease user id =
      if c.keyspace.leases.contains id then
        .ok { c with keyspace := c.keyspace.dropLease id }
      else .error (.notFound (.lease id)) := by
  rw [revokeLease, Std.ExtTreeMap.contains_eq_isSome_getElem?]
  cases c.keyspace.leases[id]? with
  | none => rfl
  | some l =>
    simp only [h.authenticate, h.authorizeAll]
    rfl

theorem serve_transact_of_trusts (h : c.access.Trusts user) (hlength : t.maxBranchLength ≤ limit)
    (hconditions : t.conditions.length ≤ limit) :
    c.serve user now limit (.transact t) = (c.expire now).attempt t := by
  have hhandle : (c.expire now).handle user now limit (.transact t) =
      (c.expire now).transact user limit t := rfl
  have htrusts : (c.expire now).access.Trusts user := h
  rw [transact_of_trusts htrusts hlength hconditions] at hhandle
  unfold attempt
  cases hmissing : (c.expire now).keyspace.missingLease? ((c.expire now).branch t) with
  | some id =>
    rw [hmissing] at hhandle
    exact serve_of_handle_eq_error hhandle
  | none =>
    rw [hmissing] at hhandle
    exact serve_of_handle_eq_ok hhandle

theorem serve_grantLease_of_trusts (h : c.access.Trusts user) {ttl : Int} (hpos : 0 < ttl) :
    c.serve user now limit (.grantLease ttl) =
      match now.ofSecondsAfter? ttl.toNat with
      | none => (.error (.invalidArgument (.leaseTooLong ttl)), c.expire now)
      | some deadline => (.ok (c.expire now).keyspace.nextLease,
          { c with keyspace := (c.expire now).keyspace.grantLease deadline }) := by
  have hhandle : (c.expire now).handle user now limit (.grantLease ttl) =
      (c.expire now).grantLease user now ttl := rfl
  have htrusts : (c.expire now).access.Trusts user := h
  rw [grantLease_of_trusts htrusts hpos] at hhandle
  cases hdeadline : now.ofSecondsAfter? ttl.toNat with
  | none =>
    rw [hdeadline] at hhandle
    exact serve_of_handle_eq_error hhandle
  | some deadline =>
    rw [hdeadline] at hhandle
    exact serve_of_handle_eq_ok hhandle

theorem serve_authStatus_of_trusts (h : c.access.Trusts user) :
    (c.serve user now limit .authStatus).1 = .ok c.access.enabled := by
  have hhandle : (c.expire now).handle user now limit .authStatus =
      .ok (c.access.enabled, c.expire now) := by
    show ((c.expire now).authStatus user).map (·, c.expire now) = _
    have htrusts : (c.expire now).access.Trusts user := h
    rw [authStatus, htrusts.authenticate]
    rfl
  rw [serve_of_handle_eq_ok hhandle]

/-- A lease that a trusted user has revoked is gone, whether or not it was there. -/
theorem keyspace_serve_revokeLease (h : c.access.Trusts user) (id : LeaseId) :
    (c.serve user now limit (.revokeLease id)).2.keyspace =
      (c.expire now).keyspace.dropLease id := by
  have hhandle : (c.expire now).handle user now limit (.revokeLease id) =
      plain ((c.expire now).revokeLease user id) := rfl
  have htrusts : (c.expire now).access.Trusts user := h
  rw [revokeLease_of_trusts htrusts] at hhandle
  by_cases hid : (c.expire now).keyspace.leases.contains id
  · rw [if_pos hid] at hhandle
    rw [serve_of_handle_eq_ok hhandle]
  · -- a lease that is not there cannot be revoked, and dropping it does nothing
    rw [if_neg hid] at hhandle
    rw [serve_of_handle_eq_error hhandle]
    rw [Std.ExtTreeMap.contains_eq_isSome_getElem?, Option.not_isSome_iff_eq_none] at hid
    exact (Keyspace.dropLease_of_eq_none hid).symm

end Cluster

namespace Network

/-- The limit on the size of transactions through a server, if it runs in the cluster. -/
def limitAt? (net : Network) (server : NodeId) (k : ClusterId) : Option Nat :=
  (net.nodes[server]?.filter fun node => node.cluster.toOption = some k).map (·.config.maxOperations)

variable {net : Network} {server : NodeId} {k : ClusterId} {limit : Nat} {c : Cluster}

theorem serve_of_limitAt? (h : net.limitAt? server k = some limit) (hc : net.clusters[k]? = some c)
    (now : Instant) (user : String) (command : Command) :
    net.serve now server user command =
      (net.setCluster k (c.serve user now limit command).2,
        (c.serve user now limit command).1) := by
  obtain ⟨node, hfilter, rfl⟩ := Option.map_eq_some_iff.1 h
  obtain ⟨hnode, hk⟩ := Option.filter_eq_some_iff.1 hfilter
  have hcluster : node.cluster = .ok k := by
    rw [decide_eq_true_iff] at hk
    cases hcluster : node.cluster with
    | error e =>
      rw [hcluster] at hk
      cases hk
    | ok k' =>
      rw [hcluster] at hk
      exact congrArg Except.ok (Option.some.inj hk)
  unfold serve
  simp only [hnode, hcluster, hc]

theorem clusters_setCluster (hc : net.clusters[k]? = some c) (c' : Cluster) :
    (net.setCluster k c').clusters[k]? = some c' := by
  obtain ⟨hlt, -⟩ := List.getElem?_eq_some_iff.1 hc
  exact List.getElem?_set_self hlt

end Network

end ClusterVault
