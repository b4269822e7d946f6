import ClusterVault.Proofs.Cluster.Refusals
import ClusterVault.Proofs.Keyspace.Expiry
import ClusterVault.Proofs.Secrets.Kept

/-!
# What is left of a write that fails

Secrets with a time to live are written with a lease, and if they are not written the lease is
revoked. Nothing is then left of the attempt but that the number of the lease is spent. This module
shows so for a cluster that serves the requests one after the other, at any instants.

## Main definitions

- `Keyspace.countFrom`, `Cluster.countFrom`: the same state with another number for the next lease

## Main statements

- `Keyspace.dropLease_grantLease`: a lease that is dropped without keys leaves its number spent
- `Cluster.revokeLease_undoes_grantLease`: so does a lease that is revoked or runs out
- `Cluster.serve_writing_refused_iff`: when a transaction that writes secrets is refused
-/

namespace ClusterVault

namespace Keyspace

/-- The same keys and leases with another number for the next lease. -/
def countFrom (ks : Keyspace) (next : LeaseId) : Keyspace := { ks with nextLease := next }

variable {ks : Keyspace} {id : LeaseId} {now : Instant}

theorem dropLease_countFrom (ks : Keyspace) (next : LeaseId) (id : LeaseId) :
    (ks.countFrom next).dropLease id = (ks.dropLease id).countFrom next := by
  cases h : ks.leases[id]? with
  | none => rw [dropLease_of_eq_none h, dropLease_of_eq_none (by exact h)]
  | some l =>
    rw [dropLease_of_eq_some h, dropLease_of_eq_some (by exact h)]
    rfl

theorem expire_countFrom (ks : Keyspace) (next : LeaseId) (now : Instant) :
    (ks.countFrom next).expire now = (ks.expire now).countFrom next := by
  have hfold : ∀ (ids : List LeaseId) (ks : Keyspace),
      ids.foldl dropLease (ks.countFrom next) = (ids.foldl dropLease ks).countFrom next := by
    intro ids
    induction ids with
    | nil => exact fun _ => rfl
    | cons id ids ih =>
      intro ks
      rw [List.foldl_cons, List.foldl_cons, dropLease_countFrom, ih]
  exact hfold (ks.expired now) ks

/-- A lease that is dropped may as well have been dropped before the others ran out. -/
theorem dropLease_expire (ks : Keyspace) (id : LeaseId) (now : Instant) :
    (ks.expire now).dropLease id = (ks.dropLease id).expire now := by
  have hmem (id' : LeaseId) :
      id' ∈ (ks.dropLease id).expired now ↔ id' ≠ id ∧ id' ∈ ks.expired now := by
    rw [mem_expired, mem_expired, deadline?_dropLease]
    by_cases heq : id = id' <;> simp [heq, eq_comm]
  have hend : (ks.expire now).dropLease id = ((ks.expired now) ++ [id]).foldl dropLease ks := by
    rw [List.foldl_append]
    rfl
  by_cases hexpired : id ∈ ks.expired now
  · -- the lease has run out, so it is among the others
    have hgone : (ks.expire now).dropLease id = ks.expire now := by
      refine dropLease_of_eq_none (deadline?_eq_none.1 ?_)
      rw [expire, deadline?_foldl_dropLease, if_pos hexpired]
    rw [hgone]
    show (ks.expired now).foldl dropLease ks =
      (id :: (ks.dropLease id).expired now).foldl dropLease ks
    refine foldl_dropLease_of_mem_iff (nodup_expired ks now) ?_ fun id' => ?_
    · exact List.nodup_cons.2 ⟨fun h => ((hmem id).1 h).1 rfl, nodup_expired _ _⟩
    · rw [List.mem_cons, hmem]
      by_cases heq : id' = id
      · simp [heq, hexpired]
      · simp [heq]
  · rw [hend]
    show _ = (id :: (ks.dropLease id).expired now).foldl dropLease ks
    refine foldl_dropLease_of_mem_iff ?_ ?_ fun id' => ?_
    · refine (nodup_expired ks now).append (List.nodup_singleton id) fun id' hid' hsame => ?_
      exact hexpired (List.mem_singleton.1 hsame ▸ hid')
    · exact List.nodup_cons.2 ⟨fun h => ((hmem id).1 h).1 rfl, nodup_expired _ _⟩
    · rw [List.mem_append, List.mem_singleton, List.mem_cons, hmem]
      by_cases heq : id' = id
      · simp [heq]
      · simp [heq]

/-- A lease without keys leaves nothing behind but its number. -/
theorem dropLease_grantLease (h : ks.Consistent) (deadline : Instant) :
    (ks.grantLease deadline).dropLease ks.nextLease = ks.countFrom (ks.nextLease + 1) := by
  have hkeys : (ks.grantLease deadline).keysOf ks.nextLease = ∅ := by
    rw [keysOf_grantLease, if_pos rfl]
  refine eq_of_getElem?_eq ?_ ?_ ?_ ?_
  · rw [revision_dropLease, hkeys]
    rfl
  · intro key
    rw [getElem?_dropLease, hkeys, if_neg Std.ExtTreeSet.not_mem_empty]
    rfl
  · intro id
    rw [leases_dropLease]
    by_cases heq : ks.nextLease = id
    · rw [if_pos heq, ← heq]
      exact (deadline?_eq_none.1 h.deadline?_nextLease).symm
    · rw [if_neg heq]
      simp [grantLease, countFrom, Std.ExtTreeMap.getElem?_insert, heq]
  · rw [nextLease_dropLease]
    rfl

/-- That stays so whatever runs out before the lease is dropped. -/
theorem dropLease_expire_grantLease (h : ks.Consistent) (deadline : Instant) (now : Instant) :
    ((ks.grantLease deadline).expire now).dropLease ks.nextLease =
      (ks.expire now).countFrom (ks.nextLease + 1) := by
  rw [dropLease_expire, dropLease_grantLease h, expire_countFrom]

/-- A lease that has no keys gets none by running out of others. -/
theorem keysOf_expire_of_eq_empty (h : ks.keysOf id = ∅) (now : Instant) :
    (ks.expire now).keysOf id = ∅ := by
  have hfold : ∀ (ids : List LeaseId) (ks : Keyspace), ks.keysOf id = ∅ →
      (ids.foldl dropLease ks).keysOf id = ∅ := by
    intro ids
    induction ids with
    | nil => exact fun _ h => h
    | cons first ids ih =>
      intro ks h
      refine ih (ks.dropLease first) ?_
      rw [keysOf_dropLease, h, ite_self]
  exact hfold (ks.expired now) ks h

end Keyspace

namespace Cluster

open SecretStore

/-- The same cluster with another number for the next lease. -/
def countFrom (c : Cluster) (next : LeaseId) : Cluster :=
  { c with keyspace := c.keyspace.countFrom next }

variable {c : Cluster} {user : String} {now t₁ t₂ t₃ : Instant} {limit : Nat} {ttl : Int}
  {l : LeaseId} {lease : Option LeaseId} {secrets : Secrets}

theorem countFrom_nextLease (c : Cluster) (now : Instant) :
    (c.expire now).countFrom c.keyspace.nextLease = c.expire now := by
  have hnext : (c.keyspace.expire now).countFrom c.keyspace.nextLease = c.keyspace.expire now := by
    rw [Keyspace.countFrom, ← Keyspace.nextLease_expire now]
  exact congrArg (fun ks => ({ c with keyspace := ks } : Cluster)) hnext

/-! ## Leases -/

/-- A lease is granted unless its user does not exist or its end lies beyond all instants. -/
theorem serve_grantLease_cases (hpos : 0 < ttl) (c : Cluster) (user : String) (now : Instant)
    (limit : Nat) :
    (c.access.authenticate user = .ok () ∧ ∃ deadline,
      now.ofSecondsAfter? ttl.toNat = some deadline ∧
      c.serve user now limit (.grantLease ttl) = (.ok c.keyspace.nextLease,
        { c.expire now with keyspace := (c.expire now).keyspace.grantLease deadline })) ∨
    ((c.access.authenticate user ≠ .ok () ∨ now.ofSecondsAfter? ttl.toNat = none) ∧
      ∃ e, c.serve user now limit (.grantLease ttl) = (.error e, c.expire now)) := by
  have hexpired : (c.expire now).access.authenticate user = c.access.authenticate user := rfl
  have hhandle : (c.expire now).handle user now limit (.grantLease ttl) =
      (c.expire now).grantLease user now ttl := rfl
  rw [grantLease, hexpired, if_neg (Int.not_le.2 hpos)] at hhandle
  cases hauth : c.access.authenticate user with
  | error e =>
    rw [hauth] at hhandle
    exact .inr ⟨.inl (by simp), e, serve_of_handle_eq_error hhandle⟩
  | ok u =>
    rw [hauth] at hhandle
    cases hdeadline : now.ofSecondsAfter? ttl.toNat with
    | none =>
      rw [hdeadline] at hhandle
      exact .inr ⟨.inr rfl, _, serve_of_handle_eq_error hhandle⟩
    | some deadline =>
      rw [hdeadline] at hhandle
      refine .inl ⟨rfl, deadline, rfl, ?_⟩
      rw [serve_of_handle_eq_ok hhandle]
      exact congrArg (fun next => (Except.ok next, _)) (Keyspace.nextLease_expire now)

/-- Who exists may revoke a lease without keys, if it has not run out before. In either case it is
    gone. -/
theorem serve_revokeLease_of_keysOf_eq_empty (hauth : c.access.authenticate user = .ok ())
    (hkeys : c.keyspace.keysOf l = ∅) :
    (c.serve user now limit (.revokeLease l)).2 =
      { c.expire now with keyspace := (c.expire now).keyspace.dropLease l } := by
  have hexpired : (c.expire now).access.authenticate user = .ok () := hauth
  have hempty : (c.expire now).keyspace.keysOf l = ∅ := Keyspace.keysOf_expire_of_eq_empty hkeys now
  have hhandle : (c.expire now).handle user now limit (.revokeLease l) =
      plain ((c.expire now).revokeLease user l) := rfl
  rw [revokeLease] at hhandle
  cases hlease : (c.expire now).keyspace.leases[l]? with
  | none =>
    rw [hlease] at hhandle
    rw [serve_of_handle_eq_error hhandle, Keyspace.dropLease_of_eq_none hlease]
  | some lease =>
    have hnone : lease.keys.toList = [] := by
      rw [Keyspace.keysOf, hlease] at hempty
      rw [show lease.keys = ∅ from hempty]
      rfl
    rw [hlease] at hhandle
    dsimp only at hhandle
    rw [hexpired, hnone] at hhandle
    rw [serve_of_handle_eq_ok hhandle]

/-- A lease that is revoked, or runs out before, leaves nothing behind but its number. -/
theorem revokeLease_undoes_grantLease (hc : c.keyspace.Consistent)
    (hauth : c.access.authenticate user = .ok ()) (deadline : Instant) (limit : Nat) (h₁ : t₁ ≤ t₂)
    (h₂ : t₂ ≤ t₃) :
    ((({ c.expire t₁ with keyspace := (c.expire t₁).keyspace.grantLease deadline } :
      Cluster).expire t₂).serve user t₃ limit (.revokeLease c.keyspace.nextLease)).2 =
      (c.expire t₃).countFrom (c.keyspace.nextLease + 1) := by
  have hnext : (c.expire t₁).keyspace.nextLease = c.keyspace.nextLease := Keyspace.nextLease_expire t₁
  have hkeys : ((c.expire t₁).keyspace.grantLease deadline).keysOf c.keyspace.nextLease = ∅ := by
    rw [Keyspace.keysOf_grantLease, if_pos hnext]
  rw [serve_revokeLease_of_keysOf_eq_empty (by exact hauth)
    (by exact Keyspace.keysOf_expire_of_eq_empty hkeys t₂)]
  have hkeyspace : ((((c.keyspace.expire t₁).grantLease deadline).expire t₂).expire t₃).dropLease
      c.keyspace.nextLease = (c.keyspace.expire t₃).countFrom (c.keyspace.nextLease + 1) := by
    have hgone := Keyspace.dropLease_expire_grantLease (hc.expire t₁) deadline t₃
    rw [Keyspace.nextLease_expire, Keyspace.expire_expire _ (Nat.le_trans h₁ h₂)] at hgone
    rw [Keyspace.expire_expire _ h₂, hgone]
  exact congrArg (fun ks => ({ c with keyspace := ks } : Cluster)) hkeyspace

/-! ## The transaction -/

/-- The transaction asks to read and to write under every id, and under no other key. -/
theorem mem_demands_writing {demand : Access × Bytes} :
    demand ∈ demands (writing secrets.toList lease) ↔ ∃ id ∈ secrets, demand.2 = key id := by
  have hmem : ∀ id, id ∈ secrets ↔ ∃ entry ∈ secrets.toList, entry.1 = id := by
    intro id
    rw [← Std.ExtTreeMap.mem_keys, ← Std.ExtTreeMap.map_fst_toList_eq_keys, List.mem_map]
  obtain ⟨access, k⟩ := demand
  constructor
  · intro hdemand
    rcases List.mem_append.1 hdemand with hcondition | hop
    · obtain ⟨condition, hcondition, heq⟩ := List.mem_map.1 hcondition
      obtain ⟨entry, hentry, rfl⟩ := List.mem_map.1 hcondition
      cases heq
      exact ⟨entry.1, (hmem _).2 ⟨entry, hentry, rfl⟩, rfl⟩
    · obtain ⟨op, hop, heq⟩ := List.mem_map.1 hop
      rcases List.mem_append.1 hop with hop | hop
      all_goals
        obtain ⟨entry, hentry, rfl⟩ := List.mem_map.1 hop
        cases heq
        exact ⟨entry.1, (hmem _).2 ⟨entry, hentry, rfl⟩, rfl⟩
  · rintro ⟨id, hid, hk⟩
    obtain ⟨entry, hentry, rfl⟩ := (hmem id).1 hid
    cases access with
    | read =>
      refine List.mem_append_left _ (List.mem_map.2 ⟨.absent (key entry.1), ?_, by rw [← hk]; rfl⟩)
      exact List.mem_map.2 ⟨entry, hentry, rfl⟩
    | write =>
      refine List.mem_append_right _ (List.mem_map.2
        ⟨.put (key entry.1) entry.2 lease, List.mem_append_left _ ?_, by rw [← hk]; rfl⟩)
      exact List.mem_map.2 ⟨entry, hentry, rfl⟩

/-- Secrets are refused if there are too many of them, or one may not be read or written. -/
theorem serve_writing_refused_iff
    (hlease : ∀ l, lease = some l → ((c.expire now).keyspace.deadline? l).isSome) :
    (∃ e, (c.serve user now limit (.transact (writing secrets.toList lease))).1 = .error e) ↔
      limit < secrets.size ∨
        ∃ id ∈ secrets, ∃ access, c.access.authorizeKey user access (key id) ≠ .ok () := by
  constructor
  · rintro ⟨e, he⟩
    obtain ⟨hrefuses, -⟩ := serve_transact_eq_error he
    cases hrefuses with
    | size hsize =>
      left
      rw [Transaction.exceeds_iff, maxBranchLength_writing, length_conditions_writing] at hsize
      omega
    | @key before after access k _ hdemands _ hdenied =>
      have hdemand : (access, k) ∈ demands (writing secrets.toList lease) := by
        rw [demands_eq, hdemands]
        exact List.mem_append_right _ List.mem_cons_self
      obtain ⟨id, hid, rfl⟩ := mem_demands_writing.1 hdemand
      exact .inr ⟨id, hid, access, hdenied⟩
    | @lease before after k value l _ _ hops _ hmissing =>
      -- the only lease that is named is there
      have hput : Operation.put k value (some l) ∈
          (writing secrets.toList lease).success ++ (writing secrets.toList lease).failure := by
        refine mem_of_mem_branch (c := c.expire now) ?_
        rw [hops]
        exact List.mem_append_right _ List.mem_cons_self
      exfalso
      rcases List.mem_append.1 hput with hput | hget
      · obtain ⟨entry, -, heq⟩ := List.mem_map.1 hput
        cases heq
        rw [Keyspace.contains_leases, hlease l rfl] at hmissing
        cases hmissing
      · obtain ⟨entry, -, heq⟩ := List.mem_map.1 hget
        cases heq
  · intro hhindered
    cases hserve : (c.serve user now limit (.transact (writing secrets.toList lease))).1 with
    | error e => exact ⟨e, rfl⟩
    | ok result =>
      obtain ⟨-, hfits, hgranted⟩ := attempt_of_serve_eq_ok (Prod.ext hserve rfl)
      rw [maxBranchLength_writing] at hfits
      rcases hhindered with hsize | ⟨id, hid, access, hdenied⟩
      · omega
      · exact absurd (AccessControl.authorizeAll_eq_ok.1 hgranted (access, key id)
          (mem_demands_writing.2 ⟨id, hid, rfl⟩)) hdenied

end Cluster

end ClusterVault
