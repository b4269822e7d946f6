import ClusterVault.Proofs.Cluster.Confinement

/-!
# Why transactions are refused

A transaction is refused for its size, for a key that its user may not access, or for a lease that is
not there, and the first of these reasons that applies is given. All checks are made before the first
operation runs. So a transaction runs as a whole or not at all, if no operation undoes what a check
has found for a later one. This module runs the operations with the checks made anew before each, and
finds that they never fail.

## Main definitions

- `Transaction.Exceeds`: a transaction with more conditions or operations than a server takes
- `Cluster.Refuses`: why a transaction is refused
- `Cluster.SameButLeases`: transactions that differ in leases of operations that are not run
- `Cluster.runChecked`: a run of operations with the checks made anew before each

## Main statements

- `Cluster.runChecked_eq_applyAll`: the checks made anew find nothing
- `Cluster.transact_refused_or_whole`: a transaction is refused for the reasons above and changes
  nothing then, and runs as a whole otherwise
-/

namespace ClusterVault

/-- The transaction has more conditions or operations than a server takes. -/
def Transaction.Exceeds (t : Transaction) (limit : Nat) : Prop :=
  limit < t.success.length ∨ limit < t.failure.length ∨ limit < t.conditions.length

instance (t : Transaction) (limit : Nat) : Decidable (t.Exceeds limit) :=
  inferInstanceAs (Decidable (_ ∨ _ ∨ _))

/-- The operation without the lease that it names. -/
def Operation.withoutLease : Operation → Operation
  | .put key value _ => .put key value none
  | op => op

theorem Transaction.exceeds_iff {t : Transaction} {limit : Nat} :
    t.Exceeds limit ↔ ¬(t.maxBranchLength ≤ limit ∧ t.conditions.length ≤ limit) := by
  rw [Exceeds, maxBranchLength]
  omega

namespace Cluster

/-- Why a transaction is refused. A reason is given only if those before it do not apply, and for the
    first key or lease to which it applies. -/
inductive Refuses (c : Cluster) (user : String) (limit : Nat) (t : Transaction) :
    EngineError → Prop
  | size (hsize : t.Exceeds limit) :
    Refuses c user limit t (.invalidArgument (.tooManyOperations limit))
  | key {before after : List (Access × Bytes)} {access : Access} {key : Bytes}
    (hsize : ¬t.Exceeds limit)
    (hdemands : t.conditions.map (fun condition => (Access.read, condition.key)) ++
      t.success.map (fun op => (accessFor op, op.key)) ++
      t.failure.map (fun op => (accessFor op, op.key)) = before ++ (access, key) :: after)
    (hbefore : ∀ demand ∈ before, c.access.authorizeKey user demand.1 demand.2 = .ok ())
    (hdenied : c.access.authorizeKey user access key ≠ .ok ()) :
    Refuses c user limit t (c.access.denial user access key)
  | lease {before after : List Operation} {key value : Bytes} {id : LeaseId}
    (hsize : ¬t.Exceeds limit)
    (hkeys : ∀ demand ∈ demands t, c.access.authorizeKey user demand.1 demand.2 = .ok ())
    (hops : c.branch t = before ++ .put key value (some id) :: after)
    (hbefore : c.keyspace.LeasesExist before)
    (hmissing : c.keyspace.leases.contains id = false) :
    Refuses c user limit t (.notFound (.lease id))

/-- The transactions differ at most in leases of operations that are not run. -/
structure SameButLeases (c : Cluster) (t t' : Transaction) : Prop where
  conditions : t.conditions = t'.conditions
  branch : c.branch t = c.branch t'
  success : t.success.map Operation.withoutLease = t'.success.map Operation.withoutLease
  failure : t.failure.map Operation.withoutLease = t'.failure.map Operation.withoutLease

/-- Runs operations one after the other, and checks before each that its user may access the key and
    that the lease it names is there. -/
def runChecked (a : AccessControl) (user : String) :
    Keyspace → List Operation → Except EngineError (List Outcome × Keyspace)
  | ks, [] => .ok ([], ks)
  | ks, op :: rest => do
    a.authorizeKey user (accessFor op) op.key
    match ks.missingLease? [op] with
    | some id => throw (.notFound (.lease id))
    | none =>
      let (outcome, ks) := ks.apply op
      let (outcomes, ks) ← runChecked a user ks rest
      return (outcome :: outcomes, ks)

variable {c c' : Cluster} {a : AccessControl} {ks : Keyspace} {user : String} {limit : Nat}
  {t t' : Transaction} {ops : List Operation} {op : Operation} {id : LeaseId} {e : EngineError}
  {result : Transaction.Result}

/-! ## Reasons -/

theorem lease?_eq_some : op.lease? = some id ↔ ∃ key value, op = .put key value (some id) := by
  cases op <;> simp [Operation.lease?]

theorem demands_eq (t : Transaction) :
    demands t = t.conditions.map (fun condition => (Access.read, condition.key)) ++
      t.success.map (fun op => (accessFor op, op.key)) ++
      t.failure.map (fun op => (accessFor op, op.key)) := by
  rw [demands, List.map_append, List.append_assoc]

/-- The missing lease that is told is that of the first write whose lease is missing. -/
theorem missingLease?_eq_some :
    ks.missingLease? ops = some id ↔
      ∃ before key value after, ops = before ++ .put key value (some id) :: after ∧
        ks.LeasesExist before ∧ ks.leases.contains id = false := by
  have hexist : ∀ before : List Operation, ks.LeasesExist before ↔
      ∀ op ∈ before, (!op.lease?.any fun id => !ks.leases.contains id) := by
    intro before
    refine forall₂_congr fun op _ => ?_
    cases op.lease? <;> simp [Keyspace.contains_leases]
  rw [Keyspace.missingLease?, List.find?_filterMap, Option.bind_eq_some_iff]
  constructor
  · rintro ⟨op, hfirst, hid⟩
    obtain ⟨hmissing, before, after, rfl, hbefore⟩ := List.find?_eq_some_iff_append.1 hfirst
    obtain ⟨key, value, rfl⟩ := lease?_eq_some.1 hid
    exact ⟨before, key, value, after, rfl, (hexist before).2 hbefore,
      by simpa [Operation.lease?] using hmissing⟩
  · rintro ⟨before, key, value, after, rfl, hbefore, hmissing⟩
    refine ⟨.put key value (some id), List.find?_eq_some_iff_append.2 ⟨?_, before, after, rfl,
      (hexist before).1 hbefore⟩, rfl⟩
    simpa [Operation.lease?] using hmissing

theorem Refuses.transact_eq (h : c.Refuses user limit t e) :
    c.transact user limit t = .error e := by
  rw [Cluster.transact_eq]
  cases h with
  | size hsize => rw [if_neg (Transaction.exceeds_iff.1 hsize)]
  | key hsize hdemands hbefore hdenied =>
    rw [← demands_eq] at hdemands
    have hrefused := AccessControl.authorizeAll_eq_error.2
      ⟨_, _, _, _, hdemands, hbefore, hdenied, rfl⟩
    rw [if_pos (not_not.1 (Transaction.exceeds_iff.not.1 hsize)), hrefused]
  | lease hsize hkeys hops hbefore hmissing =>
    rw [if_pos (not_not.1 (Transaction.exceeds_iff.not.1 hsize)),
      AccessControl.authorizeAll_eq_ok.2 hkeys]
    dsimp only
    rw [missingLease?_eq_some.2 ⟨_, _, _, _, hops, hbefore, hmissing⟩]

theorem refuses_of_transact_eq_error (h : c.transact user limit t = .error e) :
    c.Refuses user limit t e := by
  rw [transact_eq] at h
  split at h
  · next hfits =>
    have hsize : ¬t.Exceeds limit := fun hexceeds => Transaction.exceeds_iff.1 hexceeds hfits
    split at h
    · next hkeys =>
      cases h
      obtain ⟨before, access, key, after, hdemands, hbefore, hdenied, rfl⟩ :=
        AccessControl.authorizeAll_eq_error.1 hkeys
      rw [demands_eq] at hdemands
      exact .key hsize hdemands hbefore hdenied
    · next hkeys =>
      split at h
      · next id hlease =>
        cases h
        obtain ⟨before, key, value, after, hops, hbefore, hmissing⟩ :=
          missingLease?_eq_some.1 hlease
        exact .lease hsize (AccessControl.authorizeAll_eq_ok.1 hkeys) hops hbefore hmissing
      · cases h
  · next hlarge =>
    cases h
    exact .size (Transaction.exceeds_iff.2 hlarge)

/-- A transaction is refused for one of the reasons, and for no other. -/
theorem transact_eq_error_iff : c.transact user limit t = .error e ↔ c.Refuses user limit t e :=
  ⟨refuses_of_transact_eq_error, Refuses.transact_eq⟩

/-! ## Leases that do not matter -/

theorem accessFor_withoutLease : accessFor op.withoutLease = accessFor op := by
  cases op <;> rfl

theorem key_withoutLease : op.withoutLease.key = op.key := by
  cases op <;> rfl

theorem map_demand_of_withoutLease {ops ops' : List Operation}
    (h : ops.map Operation.withoutLease = ops'.map Operation.withoutLease) :
    ops.map (fun op => (accessFor op, op.key)) = ops'.map (fun op => (accessFor op, op.key)) := by
  have hmap : ∀ ops : List Operation, ops.map (fun op => (accessFor op, op.key)) =
      (ops.map Operation.withoutLease).map (fun op => (accessFor op, op.key)) := by
    intro ops
    rw [List.map_map]
    exact List.map_congr_left fun op _ =>
      (Prod.ext accessFor_withoutLease key_withoutLease).symm
  rw [hmap ops, hmap ops', h]

/-- A lease that only an operation names that is not run does not matter. -/
theorem SameButLeases.transact_eq (h : c.SameButLeases t t') :
    c.transact user limit t = c.transact user limit t' := by
  have hdemands : demands t = demands t' := by
    rw [demands_eq, demands_eq, h.conditions, map_demand_of_withoutLease h.success,
      map_demand_of_withoutLease h.failure]
  have hlength : t.maxBranchLength = t'.maxBranchLength := by
    have hsuccess : t.success.length = t'.success.length := by
      simpa using congrArg List.length h.success
    have hfailure : t.failure.length = t'.failure.length := by
      simpa using congrArg List.length h.failure
    rw [Transaction.maxBranchLength, Transaction.maxBranchLength, hsuccess, hfailure]
  have haccepted : c.accepted t = c.accepted t' := by
    rw [accepted, accepted, h.branch, h.conditions]
  rw [Cluster.transact_eq, Cluster.transact_eq, hdemands, hlength, haccepted, h.branch,
    h.conditions]

/-! ## Checks made anew -/

theorem leasesExist_apply {ks : Keyspace} (h : ks.LeasesExist ops) (op : Operation) :
    (ks.apply op).2.LeasesExist ops := by
  intro op' hop' id hid
  rw [Keyspace.deadline?_apply]
  exact h op' hop' id hid

/-- While operations run that have passed the checks, none of the checks fails when it is made
    anew. -/
theorem runChecked_eq_applyAll
    (hkeys : ∀ op ∈ ops, a.authorizeKey user (accessFor op) op.key = .ok ())
    (hleases : ks.LeasesExist ops) : runChecked a user ks ops = .ok (ks.applyAll ops) := by
  induction ops generalizing ks with
  | nil => rfl
  | cons op ops ih =>
    obtain ⟨hkey, hkeys⟩ := List.forall_mem_cons.1 hkeys
    have hlease : ks.missingLease? [op] = none :=
      Keyspace.missingLease?_eq_none.2 fun op' hop' =>
        hleases op' (List.mem_cons.2 (.inl (List.mem_singleton.1 hop')))
    -- the operation ends no lease
    have hrest : (ks.apply op).2.LeasesExist ops :=
      leasesExist_apply (fun op' hop' => hleases op' (List.mem_cons_of_mem op hop')) op
    rw [runChecked, hkey, hlease]
    dsimp only [bind, Except.bind]
    rw [ih hkeys hrest]
    rfl

/-! ## Transactions as a whole -/

theorem runChecked_of_transact_eq_ok (h : c.transact user limit t = .ok (result, c')) :
    runChecked c.access user (c.keyspace.atRevisionOf (c.branch t)) (c.branch t) =
      .ok (result.outcomes, c'.keyspace) := by
  obtain ⟨hleases, haccepted⟩ := transact_eq_ok h
  have hleases' : (c.keyspace.atRevisionOf (c.branch t)).LeasesExist (c.branch t) := by
    intro op hop id hid
    rw [Keyspace.deadline?_atRevisionOf]
    exact hleases op hop id hid
  rw [runChecked_eq_applyAll (authorized_of_transact_eq_ok h) hleases']
  cases haccepted
  rfl

/-- A transaction that is refused leaves the state as it was. -/
theorem serve_transact_eq_error {now : Instant}
    (h : (c.serve user now limit (.transact t)).1 = .error e) :
    (c.expire now).Refuses user limit t e ∧
      (c.serve user now limit (.transact t)).2 = c.expire now := by
  cases hhandle : (c.expire now).handle user now limit (.transact t) with
  | error e' =>
    rw [serve_of_handle_eq_error hhandle] at h ⊢
    cases h
    exact ⟨refuses_of_transact_eq_error hhandle, rfl⟩
  | ok answer =>
    rw [serve_of_handle_eq_ok hhandle] at h
    cases h

/-- A transaction is refused for its size, else for the first key that its user may not access, else
    for the first lease that is missing in the branch it takes, and for nothing else. Leases that are
    named in the other branch do not matter. A refusal leaves everything as it was. What is accepted
    runs as a whole, and the checks made anew before each operation would have passed. -/
theorem transact_refused_or_whole (c : Cluster) (user : String) (limit : Nat) (t : Transaction) :
    (∀ e, c.transact user limit t = .error e ↔ c.Refuses user limit t e) ∧
      (∀ t', c.SameButLeases t t' → c.transact user limit t = c.transact user limit t') ∧
      (∀ now e, (c.serve user now limit (.transact t)).1 = .error e →
        (c.expire now).Refuses user limit t e ∧
          (c.serve user now limit (.transact t)).2 = c.expire now) ∧
      ∀ result c', c.transact user limit t = .ok (result, c') →
        c'.access = c.access ∧ c'.members = c.members ∧
          runChecked c.access user (c.keyspace.atRevisionOf (c.branch t)) (c.branch t) =
            .ok (result.outcomes, c'.keyspace) := by
  refine ⟨fun e => transact_eq_error_iff, fun t' h => h.transact_eq,
    fun now e h => serve_transact_eq_error h, fun result c' h => ?_⟩
  obtain ⟨-, haccepted⟩ := transact_eq_ok h
  have hrun := runChecked_of_transact_eq_ok h
  cases haccepted
  exact ⟨rfl, rfl, hrun⟩

/-- The second of two writes names a lease that is not there, so the first is not made either. The
    lease that the other branch names is not looked at. -/
theorem transact_refused_or_whole_second_write :
    let t : Transaction :=
      { success := [.put [97] [1] none, .put [98] [2] (some 7)], failure := [.put [99] [3] (some 8)] }
    (founded []).transact "root" 2 t = .error (.notFound (.lease 7)) ∧
      ((founded []).serve "root" 0 2 (.transact t)).2 = (founded []).expire 0 ∧
      (founded []).transact "root" 2 { t with failure := [.put [99] [3] none] } =
        .error (.notFound (.lease 7)) := by
  intro t
  obtain ⟨hreasons, hother, hserve, -⟩ := transact_refused_or_whole (founded []) "root" 2 t
  have hsize : ¬t.Exceeds 2 := by decide
  have hkeys : ∀ demand ∈ demands t,
      (founded []).access.authorizeKey "root" demand.1 demand.2 = .ok () := fun _ _ => rfl
  have hops : (founded []).branch t = [.put [97] [1] none] ++ .put [98] [2] (some 7) :: [] := rfl
  have hbefore : (founded []).keyspace.LeasesExist [.put [97] [1] none] :=
    Keyspace.missingLease?_eq_none.1 rfl
  have hrefused : (founded []).transact "root" 2 t = .error (.notFound (.lease 7)) :=
    (hreasons _).2 (.lease hsize hkeys hops hbefore (by decide))
  refine ⟨hrefused, (hserve 0 _ (by rfl)).2, ?_⟩
  rw [← hother { t with failure := [.put [99] [3] none] } ⟨rfl, rfl, rfl, rfl⟩]
  exact hrefused

end Cluster

end ClusterVault
