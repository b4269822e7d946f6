import ClusterVault.Proofs.Secrets.Agreement

/-!
# The transactions of calls

What the three transactions of a store of secrets come to in a cluster, beside what the same calls
come to in a vault that has the same secrets.
-/

namespace ClusterVault.Cluster

open SecretStore

variable {c : Cluster} {v : Vault} {lease : Option LeaseId} {deadline : Option Instant}

theorem leasesExist_of_lease?_eq_none {ks : Keyspace} {ops : List Operation}
    (h : ∀ op ∈ ops, op.lease? = none) : ks.LeasesExist ops := by
  intro op hop id hid
  rw [h op hop] at hid
  cases hid

theorem maxBranchLength_writing (secrets : Secrets) (lease : Option LeaseId) :
    (writing secrets.toList lease).maxBranchLength = secrets.size := by
  simp [writing, Transaction.maxBranchLength]

theorem length_conditions_writing (secrets : Secrets) (lease : Option LeaseId) :
    (writing secrets.toList lease).conditions.length = secrets.size := by
  simp [writing]

theorem maxBranchLength_deleting (ids : List String) :
    (deleting ids).maxBranchLength = ids.length := by
  simp [deleting, Transaction.maxBranchLength]

theorem length_conditions_deleting (ids : List String) :
    (deleting ids).conditions.length = ids.length := by
  simp [deleting]

/-! ## Writing -/

section Writing

variable {secrets : Secrets} (hks : c.keyspace.Consistent)
  (hlive : ∀ id, c.keyspace.secret? id = v.live id)

include hks hlive

theorem succeeded_writing (lease : Option LeaseId) :
    (writing secrets.toList lease).conditions.all c.keyspace.satisfies =
      (secrets.keys.filter v.has).isEmpty := by
  rw [hks.satisfies_writing]
  simp only [hlive]
  rfl

/-- Secrets that are there already are found, and nothing is written. -/
theorem attempt_writing_of_conflict (hfound : secrets.keys.filter v.has ≠ []) :
    written secrets.toList (c.attempt (writing secrets.toList lease)).1 =
      .error (.secretsExist (secrets.keys.filter v.has)) ∧
    (c.attempt (writing secrets.toList lease)).2 = c := by
  have hsucceeded : (writing secrets.toList lease).conditions.all c.keyspace.satisfies = false := by
    rw [succeeded_writing hks hlive, List.isEmpty_eq_false_iff]
    exact hfound
  have hbranch : c.branch (writing secrets.toList lease) =
      secrets.keys.map fun id => .get (key id) := by
    rw [branch, hsucceeded, ← Std.ExtTreeMap.map_fst_toList_eq_keys, List.map_map]
    rfl
  have hexist : c.keyspace.LeasesExist (c.branch (writing secrets.toList lease)) := by
    refine leasesExist_of_lease?_eq_none ?_
    rw [hbranch, List.forall_mem_map]
    exact fun id _ => rfl
  rw [attempt_of_leasesExist hexist, accepted, hbranch, hsucceeded, Keyspace.commit_gets]
  refine ⟨?_, rfl⟩
  dsimp only [written]
  rw [Std.ExtTreeMap.map_fst_toList_eq_keys, Keyspace.conflicts_gets]
  simp only [hlive]
  exact congrArg Except.error (writeFailure_of_ne_nil hfound)

section NoConflict

variable (hfound : secrets.keys.filter v.has = [])

include hfound

theorem branch_writing : c.branch (writing secrets.toList lease) =
    secrets.toList.map fun (id, value) => .put (key id) value lease := by
  rw [branch, succeeded_writing hks hlive, hfound]
  rfl

/-- Secrets that would end with a lease that is gone are not written. -/
theorem attempt_writing_of_expired {l : LeaseId} (hsize : secrets.size ≠ 0)
    (hgone : c.keyspace.deadline? l = none) :
    c.attempt (writing secrets.toList (some l)) = (.error (.notFound (.lease l)), c) := by
  have hmissing : c.keyspace.missingLease?
      (secrets.toList.map fun (id, value) => .put (key id) value (some l)) = some l := by
    have hne : secrets.toList ≠ [] := by
      rw [← List.length_pos_iff, Std.ExtTreeMap.length_toList]
      omega
    obtain ⟨entry, entries, hentries⟩ := List.exists_cons_of_ne_nil hne
    rw [hentries]
    simp [Keyspace.missingLease?, Operation.lease?, Keyspace.contains_leases, hgone]
  rw [attempt, branch_writing hks hlive hfound, hmissing]

/-- Secrets that are not there yet are written. -/
theorem attempt_writing (hexist : ∀ l, lease = some l → (c.keyspace.deadline? l).isSome) :
    written secrets.toList (c.attempt (writing secrets.toList lease)).1 = .ok () ∧
    (c.attempt (writing secrets.toList lease)).2 =
      { c with keyspace := (c.keyspace.commit
        (secrets.toList.map fun (id, value) => .put (key id) value lease)).2 } := by
  have hexist : c.keyspace.LeasesExist (c.branch (writing secrets.toList lease)) := by
    rw [branch_writing hks hlive hfound]
    intro op hop id hid
    obtain ⟨entry, -, rfl⟩ := List.mem_map.1 hop
    exact hexist id hid
  rw [attempt_of_leasesExist hexist, accepted, branch_writing hks hlive hfound,
    succeeded_writing hks hlive, hfound]
  exact ⟨rfl, rfl⟩

end NoConflict

/-- The vault refuses to write secrets for the reason for which the cluster does, and both write them
    otherwise. The lease is to stand for the deadline. -/
theorem attempt_writing_cases (lease : Option LeaseId) (deadline : Option Instant)
    (hsize : secrets.size ≠ 0) (hboth : lease.isSome = deadline.isSome)
    (hdeadline : lease.bind c.keyspace.deadline? = deadline.filter (v.now < ·)) :
    (∃ refusal e, v.write secrets deadline = (.error refusal, v.secrets) ∧
      written secrets.toList (c.attempt (writing secrets.toList lease)).1 = .error e ∧
      Vault.Tells (.error refusal) (.error e) ∧
      (c.attempt (writing secrets.toList lease)).2 = c) ∨
    (v.write secrets deadline = (.ok none, v.overwritten secrets deadline) ∧
      written secrets.toList (c.attempt (writing secrets.toList lease)).1 = .ok () ∧
      (∀ l, lease = some l → (c.keyspace.deadline? l).isSome) ∧
      lease.bind c.keyspace.deadline? = deadline ∧ deadline.all (v.now < ·) ∧
      (c.attempt (writing secrets.toList lease)).2 = { c with keyspace := (c.keyspace.commit
        (secrets.toList.map fun (id, value) => .put (key id) value lease)).2 }) := by
  -- both look for the secrets first, and at the deadline only if none of them is there
  cases hfound : secrets.keys.filter v.has with
  | cons id ids =>
    have hne : secrets.keys.filter v.has ≠ [] := by
      rw [hfound]
      exact List.cons_ne_nil _ _
    obtain ⟨hwritten, hsame⟩ := attempt_writing_of_conflict hks hlive hne
    refine .inl ⟨.secretsExist (id :: ids), .secretsExist (id :: ids), ?_, ?_, rfl, hsame⟩
    · simp only [Vault.write, hfound]
    · rw [hwritten, hfound]
  | nil =>
    cases hlasts : deadline.all (v.now < ·) with
    | true =>
      have heq : lease.bind c.keyspace.deadline? = deadline := by
        rw [hdeadline]
        cases deadline with
        | none => rfl
        | some d => exact Option.filter_some_pos hlasts
      have hexist (l : LeaseId) (hl : lease = some l) : (c.keyspace.deadline? l).isSome := by
        subst hl
        rw [Option.bind_some] at heq
        rw [heq, ← hboth]
        rfl
      obtain ⟨hwritten, hkeyspace⟩ := attempt_writing hks hlive hfound hexist
      refine .inr ⟨?_, hwritten, hexist, heq, rfl, hkeyspace⟩
      simp only [Vault.write, hfound, hlasts, if_true]
    | false =>
      cases deadline with
      | none => cases hlasts
      | some d =>
        obtain ⟨l, rfl⟩ := Option.isSome_iff_exists.1 hboth
        have hgone : c.keyspace.deadline? l = none := by
          rw [Option.bind_some] at hdeadline
          rw [hdeadline]
          exact Option.filter_some_neg (by simpa using hlasts)
        have hattempt := attempt_writing_of_expired hks hlive hfound hsize hgone
        rw [hattempt]
        refine .inl ⟨.leaseExpired, .engine .writing (.notFound (.lease l)), ?_, rfl, ⟨l, rfl⟩, rfl⟩
        simp only [Vault.write, hfound, hlasts]
        rfl

end Writing

/-! ## Deleting and reading -/

/-- Secrets are deleted if the vault has all of them, and nothing is otherwise. -/
theorem attempt_deleting (ids : List String) (hks : c.keyspace.Consistent)
    (hlive : ∀ id, c.keyspace.secret? id = v.live id) :
    ∃ result, result.succeeded = ids.all v.has ∧ c.attempt (deleting ids) = (.ok result,
      if ids.all v.has then
        { c with keyspace := (c.keyspace.commit (ids.map fun id => .delete (key id))).2 }
      else c) := by
  have hsucceeded : (deleting ids).conditions.all c.keyspace.satisfies = ids.all v.has := by
    rw [hks.satisfies_deleting]
    simp only [hlive]
    rfl
  have hexist : c.keyspace.LeasesExist (c.branch (deleting ids)) := by
    refine leasesExist_of_lease?_eq_none ?_
    intro op hop
    obtain ⟨id, -, rfl⟩ := List.mem_map.1 ((List.append_nil _) ▸ mem_of_mem_branch hop)
    rfl
  refine ⟨(c.accepted (deleting ids)).1, hsucceeded, ?_⟩
  rw [attempt_of_leasesExist hexist, accepted, branch, hsucceeded]
  cases ids.all v.has <;> rfl

/-- Reading shows the value that the vault has. -/
theorem attempt_reading (id : String) (hlive : ∀ id, c.keyspace.secret? id = v.live id) :
    ∃ result, c.attempt (reading id) = (.ok result, c) ∧
      ((result.outcomes.head?.bind (·.records?)).bind (·.head?)).map (·.value) =
        (v.live id).map (·.value) := by
  have hbranch : c.branch (reading id) = [id].map fun id => .get (key id) := rfl
  have hexist : c.keyspace.LeasesExist (c.branch (reading id)) := by
    refine leasesExist_of_lease?_eq_none ?_
    rw [hbranch, List.forall_mem_map]
    exact fun id _ => rfl
  rw [attempt_of_leasesExist hexist, accepted, hbranch, Keyspace.commit_gets]
  refine ⟨_, rfl, ?_⟩
  rw [← hlive, Keyspace.secret?, Keyspace.content?]
  cases hr : c.keyspace.records[key id]? <;> simp [Outcome.records?, hr]

end ClusterVault.Cluster
