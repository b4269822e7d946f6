import ClusterVault.Proofs.Cluster.Run

/-!
# Leases and their keys

The tie between keys and leases is kept in two places, in the records and in the leases. This module
shows that the two tell the same in every state a cluster can get into, and that they tell what the
operations up to that state say: a key ends with the lease that its latest write named, and with no
other.

## Main definitions

- `Keyspace.LeasesAgree`: what records and leases of a keyspace tell about a history
-/

namespace ClusterVault

namespace Keyspace

/-- Records and leases tell the same about which keys are attached to which lease, and what they tell
    is what the operations say that were run so far. -/
structure LeasesAgree (ks : Keyspace) (ops : List Operation) : Prop where
  mem_keysOf_iff : ∀ (id : LeaseId) (k : Bytes),
    k ∈ ks.keysOf id ↔ ∃ r, ks.records[k]? = some r ∧ r.lease = some id
  lease_exists : ∀ (k : Bytes) (r : Record) (id : LeaseId),
    ks.records[k]? = some r → r.lease = some id → (ks.deadline? id).isSome
  disjoint : ∀ (id id' : LeaseId) (k : Bytes), k ∈ ks.keysOf id → k ∈ ks.keysOf id' → id = id'
  /-- The keys of a lease that exists are those whose latest write named it. -/
  mem_keysOf_iff_latest : ∀ (id : LeaseId) (k : Bytes), (ks.deadline? id).isSome →
    (k ∈ ks.keysOf id ↔ ∃ value, Operation.lastEffectOn? k ops = some (some (value, some id)))
  /-- A lease that ends takes the keys with it whose latest write named it, and no others. -/
  records_dropLease : ∀ (id : LeaseId) (k : Bytes) (r : Record), ks.records[k]? = some r →
    ((∃ value, Operation.lastEffectOn? k ops = some (some (value, some id))) →
      (ks.dropLease id).records[k]? = none) ∧
    ((∀ value, Operation.lastEffectOn? k ops ≠ some (some (value, some id))) →
      (ks.dropLease id).records[k]? = some r)
  records_expire : ∀ (now : Instant) (k : Bytes) (r : Record), ks.records[k]? = some r →
    ((∃ value id d, Operation.lastEffectOn? k ops = some (some (value, some id)) ∧
      ks.deadline? id = some d ∧ d ≤ now) → (ks.expire now).records[k]? = none) ∧
    ((∀ value id d, Operation.lastEffectOn? k ops = some (some (value, some id)) →
      ks.deadline? id = some d → now < d) → (ks.expire now).records[k]? = some r)
  lease_lt_next : ∀ id, (ks.deadline? id).isSome → 1 ≤ id ∧ id < ks.nextLease

variable {ks : Keyspace} {ops : List Operation} {key : Bytes} {id : LeaseId}

/-- After a run from the beginning, what is stored under a key is what the latest write left. -/
theorem Run.lastEffectOn?_of_getElem? (h : Run {} ops ks) {r : Record}
    (hr : ks.records[key]? = some r) :
    Operation.lastEffectOn? key ops = some (some (r.value, r.lease)) := by
  have hcontent : ks.content? key = some (r.value, r.lease) := by
    rw [content?, hr]
    rfl
  rcases h.content?_eq consistent_empty key with hnone | heq
  · rw [hnone] at hcontent
    cases hcontent
  · rw [hcontent] at heq
    cases hlast : Operation.lastEffectOn? key ops with
    | none =>
      rw [hlast] at heq
      simp [content?] at heq
    | some effect =>
      rw [hlast, Option.getD_some] at heq
      rw [heq]

theorem Run.lease_eq_iff_latest (h : Run {} ops ks) {r : Record} (hr : ks.records[key]? = some r) :
    r.lease = some id ↔
      ∃ value, Operation.lastEffectOn? key ops = some (some (value, some id)) := by
  rw [h.lastEffectOn?_of_getElem? hr]
  simp

theorem Run.mem_keysOf_iff_latest (h : Run {} ops ks) (hid : (ks.deadline? id).isSome) :
    key ∈ ks.keysOf id ↔
      ∃ value, Operation.lastEffectOn? key ops = some (some (value, some id)) := by
  rw [(h.consistent consistent_empty).mem_keysOf_iff, leaseOf, Option.bind_eq_some_iff]
  constructor
  · rintro ⟨r, hr, hlease⟩
    exact (h.lease_eq_iff_latest hr).1 hlease
  · -- what the latest write left is still there, since its lease is
    rintro ⟨value, hlast⟩
    rcases h.content?_eq_or_isSpent consistent_empty hlast with hstored | ⟨id', heq, -, hgone⟩
    · obtain ⟨r, hr, hcontent⟩ := Option.map_eq_some_iff.1 hstored
      exact ⟨r, hr, congrArg Prod.snd hcontent⟩
    · rw [← Option.some.inj heq] at hgone
      rw [hgone] at hid
      cases hid

theorem Run.leasesAgree (h : Run {} ops ks) : ks.LeasesAgree ops := by
  have hks := h.consistent consistent_empty
  refine ⟨?_, ?_, ?_, fun id k => h.mem_keysOf_iff_latest, ?_, ?_, ?_⟩
  · intro id k
    rw [hks.mem_keysOf_iff, leaseOf, Option.bind_eq_some_iff]
  · intro k r id hr hid
    have hlease : ks.leaseOf k = some id := by
      rw [leaseOf, hr]
      exact hid
    obtain ⟨d, hd⟩ := hks.deadline?_of_leaseOf hlease
    simp [hd]
  · intro id id' k hk hk'
    rw [hks.mem_keysOf_iff] at hk hk'
    exact Option.some.inj (hk.symm.trans hk')
  · -- a lease that is dropped
    intro id k r hr
    have hiff : r.lease = some id ↔
        ∃ value, Operation.lastEffectOn? k ops = some (some (value, some id)) :=
      h.lease_eq_iff_latest hr
    rw [hks.getElem?_dropLease, hr]
    constructor
    · intro hlatest
      simp [Option.filter, hiff.2 hlatest]
    · intro hother
      have hne : r.lease ≠ some id := fun heq => by
        obtain ⟨value, hlast⟩ := hiff.1 heq
        exact hother value hlast
      simp [Option.filter, hne]
  · -- the leases that expire
    intro now k r hr
    rw [hks.getElem?_expire, hr, h.lastEffectOn?_of_getElem? hr]
    constructor
    · rintro ⟨value, id, d, heq, hd, hle⟩
      have hlease : r.lease = some id := congrArg Prod.snd (Option.some.inj (Option.some.inj heq))
      simp [Option.filter, lastsBeyond, hlease, hd, hle]
    · intro hlasts
      have hbeyond : ks.lastsBeyond now r.lease = true := by
        cases hlease : r.lease with
        | none => rfl
        | some id =>
          cases hd : ks.deadline? id with
          | none => simp [lastsBeyond, hd]
          | some d => simpa [lastsBeyond, hd] using hlasts r.value id d (by rw [hlease]) hd
      simp [Option.filter, hbeyond]
  · intro id hid
    obtain ⟨d, hd⟩ := Option.isSome_iff_exists.1 hid
    exact hks.lease_lt_next id d hd

end Keyspace

namespace Cluster

variable {c c₁ c₂ : Cluster} {members : List Member} {ops ops₁ ops₂ : List Operation}

/-- Two leases that are granted one after the other have different numbers. -/
theorem grantLease_lt_grantLease {c' c₁ c₂ : Cluster} {user user' : String} {now now' : Instant}
    {ttl ttl' : Int} {id id' : LeaseId} (h : c.grantLease user now ttl = .ok (id, c'))
    (hrun : Run c' ops c₁) (h' : c₁.grantLease user' now' ttl' = .ok (id', c₂)) : id < id' := by
  obtain ⟨deadline, -, rfl, rfl⟩ := grantLease_eq_ok h
  obtain ⟨deadline', -, rfl, -⟩ := grantLease_eq_ok h'
  exact lt_of_lt_of_le (Int.lt_succ _) hrun.keyspace.nextLease_le

/-- A transaction that would attach a key to a lease that is gone is refused. -/
theorem transact_of_isSpent {user : String} {limit : Nat} {t : Transaction} {op : Operation}
    {id : LeaseId} (hop : op ∈ c.branch t) (hid : op.lease? = some id)
    (hspent : c.keyspace.IsSpent id) : ∃ e, c.transact user limit t = .error e := by
  cases h : c.transact user limit t with
  | error e => exact ⟨e, rfl⟩
  | ok answer =>
    have hexists := (transact_eq_ok h).1 op hop id hid
    rw [hspent.2] at hexists
    cases hexists

/-- Records and leases agree after every run. A lease has a number that no lease had before or gets
    again, so once it is gone nothing can be attached to it for the rest of the run. -/
theorem leases_agree_with_records (h : Run (founded members) ops c) (h₁ : Run c ops₁ c₁)
    (h₂ : Run c₁ ops₂ c₂) :
    c.keyspace.LeasesAgree ops ∧
    (∀ (id : LeaseId) (user : String) (c' : Cluster), c.revokeLease user id = .ok c' →
      c'.keyspace = c.keyspace.dropLease id) ∧
    (∀ (user user' : String) (now now' : Instant) (ttl ttl' : Int) (id id' : LeaseId)
      (later : List Operation) (next c' last : Cluster),
      c.grantLease user now ttl = .ok (id, next) → Run next later c' →
      c'.grantLease user' now' ttl' = .ok (id', last) → id < id') ∧
    (∀ id, (c.keyspace.deadline? id).isSome → c₁.keyspace.deadline? id = none →
      c₂.keyspace.deadline? id = none ∧
      ∀ (user : String) (limit : Nat) (t : Transaction), ∀ op ∈ c₂.branch t, op.lease? = some id →
        ∃ e, c₂.transact user limit t = .error e) := by
  have hstart : Keyspace.Run {} ops c.keyspace := h.keyspace
  have hagree := hstart.leasesAgree
  refine ⟨hagree, ?_, ?_, ?_⟩
  · intro id user c' hrevoke
    rw [revokeLease_eq_ok hrevoke]
  · intro user user' now now' ttl ttl' id id' later next c' last hgrant hrun hgrant'
    exact grantLease_lt_grantLease hgrant hrun hgrant'
  · intro id hid hgone
    -- the lease was granted before, so the counter is past it and it cannot be granted again
    have hlt := lt_of_lt_of_le (hagree.lease_lt_next id hid).2 h₁.keyspace.nextLease_le
    have hspent := h₂.keyspace.isSpent ⟨hlt, hgone⟩
    exact ⟨hspent.2, fun user limit t op hop hlease => transact_of_isSpent hop hlease hspent⟩

/-- A write is refused once the lease it names has expired. -/
theorem leases_agree_with_records_expired :
    let write : Transaction := { success := [.put [97] [1] (some 1)] }
    let granted : Cluster := { founded [] with keyspace := ({} : Keyspace).grantLease 5000 }
    let c := (granted.accepted write).2
    let c' := c.expire 5000
    ([97] : Bytes) ∈ c.keyspace.keysOf 1 ∧ c'.keyspace.records[([97] : Bytes)]? = none ∧
      ∃ e, c'.transact "root" 1 write = .error e := by
  intro write granted c c'
  have hgrant : (founded []).grantLease "root" 0 5 = .ok (1, granted) := by rfl
  have hwrite : granted.transact "root" 1 write = .ok (granted.accepted write) := by rfl
  obtain ⟨hagree, -, -, hgone⟩ := leases_agree_with_records
    ((run_grantLease hgrant).trans (run_transact hwrite)) (Step.expire c 5000).run (Run.nil c')
  have hlatest : Operation.lastEffectOn? [97] ([] ++ granted.branch write) =
      some (some ([1], some 1)) := by decide
  have hstored : c.keyspace.records[([97] : Bytes)]? = some ⟨[97], [1], 2, 2, 1, some 1⟩ := by
    decide
  have hended : c'.keyspace.deadline? 1 = none := by
    change (c.keyspace.expire 5000).deadline? 1 = none
    rw [Keyspace.deadline?_expire]
    decide
  refine ⟨(hagree.mem_keysOf_iff_latest 1 [97] (by decide)).2 ⟨[1], hlatest⟩, ?_, ?_⟩
  · exact (hagree.records_expire 5000 [97] _ hstored).1
      ⟨[1], 1, 5000, hlatest, by decide, Nat.le_refl _⟩
  · exact (hgone 1 (by decide) hended).2 "root" 1 write _ List.mem_cons_self rfl

end Cluster

end ClusterVault
