import ClusterVault.Proofs.Keyspace.Effect
import ClusterVault.Proofs.Secrets.Vault

/-!
# Secrets in a keyspace

A secret is kept as a record under the key of its id, and ends with the lease of that record. This
module reads secrets off a keyspace, and says what the transactions of a store of secrets and the
end of leases do to them.

## Main definitions

- `Keyspace.secret?`: the secret kept under an id
- `Keyspace.Secures`: a lease that a secret ends with
-/

namespace ClusterVault

/-- Different ids have different keys. -/
theorem SecretStore.key_injective : Function.Injective SecretStore.key := by
  intro id id' h
  have harrays : (secretPrefix ++ id).toByteArray = (secretPrefix ++ id').toByteArray := by
    apply ByteArray.ext
    exact Array.toList_inj.1 h
  exact String.append_right_inj _ |>.1 (String.toByteArray_inj.1 harrays)

namespace Keyspace

open SecretStore

/-- The secret kept under an id, which may have ended already. -/
def secret? (ks : Keyspace) (id : String) : Option Secret :=
  (ks.content? (key id)).map fun content => ⟨content.1, content.2.bind ks.deadline?⟩

/-- A secret is attached to the lease. -/
def Secures (ks : Keyspace) (lease : LeaseId) : Prop := ∃ id, ks.leaseOf (key id) = some lease

variable {ks : Keyspace} {id : String} {lease : Option LeaseId} {now : Instant}

theorem isLive_eq_lastsBeyond (value : Bytes) :
    Secret.isLive ⟨value, lease.bind ks.deadline?⟩ now = ks.lastsBeyond now lease := by
  rw [Secret.isLive, lastsBeyond]
  cases lease with
  | none => rfl
  | some l => rfl

theorem isSome_secret? : (ks.secret? id).isSome = ks.records.contains (key id) := by
  rw [contains_records, secret?, Option.isSome_map]

/-- After expiry exactly the secrets are kept that have not ended. -/
theorem Consistent.secret?_expire (h : ks.Consistent) (now : Instant) (id : String) :
    (ks.expire now).secret? id = (ks.secret? id).filter (·.isLive now) := by
  rw [secret?, secret?, h.content?_expire]
  cases ks.content? (key id) with
  | none => rfl
  | some content =>
    obtain ⟨value, lease⟩ := content
    rw [Option.map_some, Option.filter_some, Option.filter_some, isLive_eq_lastsBeyond]
    cases hlasts : ks.lastsBeyond now lease with
    | false => rfl
    | true =>
      -- a record is kept only if its lease is, and the lease keeps its deadline
      have hdeadline : lease.bind (ks.expire now).deadline? = lease.bind ks.deadline? := by
        cases lease with
        | none => rfl
        | some l =>
          rw [Option.bind_some, Option.bind_some, deadline?_expire]
          cases hd : ks.deadline? l with
          | none => rfl
          | some d =>
            have hlt : now < d := by simpa [lastsBeyond, hd] using hlasts
            simp [Option.filter, hlt]
      simp only [if_true, Option.map_some, hdeadline]

/-! ## Transactions -/

theorem secret?_commit (ks : Keyspace) (ops : List Operation) (id : String) :
    (ks.commit ops).2.secret? id =
      ((Operation.lastEffectOn? (key id) ops).map fun effect =>
        effect.map fun content => ⟨content.1, content.2.bind ks.deadline?⟩).getD (ks.secret? id) := by
  have hdeadline (lease : Option LeaseId) :
      lease.bind (ks.commit ops).2.deadline? = lease.bind ks.deadline? := by
    cases lease with
    | none => rfl
    | some l => simp [commit_eq]
  rw [secret?, secret?, content?_commit]
  simp only [hdeadline]
  cases Operation.lastEffectOn? (key id) ops <;> rfl

/-! ## Leases -/

theorem Consistent.deadline?_of_content? (h : ks.Consistent) {value : Bytes} {l : LeaseId}
    (hcontent : ks.content? (key id) = some (value, some l)) : ∃ d, ks.deadline? l = some d := by
  apply h.deadline?_of_leaseOf (k := key id)
  rw [leaseOf_eq_content?, hcontent]
  rfl

/-- A new lease has no secrets, and no secret gets another deadline with it. -/
theorem Consistent.secret?_grantLease (h : ks.Consistent) (d : Instant) (id : String) :
    (ks.grantLease d).secret? id = ks.secret? id := by
  show (ks.content? (key id)).map _ = (ks.content? (key id)).map _
  cases hcontent : ks.content? (key id) with
  | none => rfl
  | some content =>
    obtain ⟨value, lease⟩ := content
    cases lease with
    | none => rfl
    | some l =>
      -- the lease of a secret exists already, so it is not the new one
      obtain ⟨d', hd'⟩ := h.deadline?_of_content? hcontent
      have hne : ks.nextLease ≠ l := ne_of_gt (h.lease_lt_next l d' hd').2
      simp [deadline?_grantLease, hne]

theorem Consistent.not_secures_nextLease (h : ks.Consistent) : ¬ks.Secures ks.nextLease := by
  rintro ⟨id, hid⟩
  obtain ⟨d, hd⟩ := h.deadline?_of_leaseOf hid
  rw [h.deadline?_nextLease] at hd
  cases hd

theorem Consistent.secures_dropLease (h : ks.Consistent) {l l' : LeaseId}
    (hl : (ks.dropLease l).Secures l') : ks.Secures l' := by
  obtain ⟨id, hid⟩ := hl
  rw [h.leaseOf_dropLease, Option.filter_eq_some_iff] at hid
  exact ⟨id, hid.1⟩

/-- Dropping a lease that no secret is attached to does nothing to secrets. -/
theorem Consistent.secret?_dropLease (h : ks.Consistent) {l : LeaseId} (hfree : ¬ks.Secures l)
    (id : String) : (ks.dropLease l).secret? id = ks.secret? id := by
  rw [secret?, secret?, h.content?_dropLease]
  cases hcontent : ks.content? (key id) with
  | none => rfl
  | some content =>
    obtain ⟨value, lease⟩ := content
    have hne : lease ≠ some l := by
      rintro rfl
      apply hfree
      exact ⟨id, by rw [leaseOf_eq_content?, hcontent]; rfl⟩
    have hdeadline : lease.bind (ks.dropLease l).deadline? = lease.bind ks.deadline? := by
      cases lease with
      | none => rfl
      | some l' =>
        have hother : l ≠ l' := fun heq => hne (congrArg some heq.symm)
        simp [deadline?_dropLease, hother]
    simp [Option.filter, hne, hdeadline]

theorem Consistent.secures_expire (h : ks.Consistent) {l : LeaseId}
    (hl : (ks.expire now).Secures l) : ks.Secures l := by
  obtain ⟨id, hid⟩ := hl
  rw [leaseOf_eq_content?, h.content?_expire] at hid
  obtain ⟨content, hcontent, hlease⟩ := Option.bind_eq_some_iff.1 hid
  rw [Option.filter_eq_some_iff] at hcontent
  refine ⟨id, ?_⟩
  rw [leaseOf_eq_content?, hcontent.1]
  exact hlease

/-! ## What the transactions do -/

theorem leaseOf_commit (ks : Keyspace) (ops : List Operation) (k : Bytes) :
    (ks.commit ops).2.leaseOf k =
      ((Operation.lastEffectOn? k ops).getD (ks.content? k)).bind (·.2) := by
  rw [leaseOf_eq_content?, content?_commit]

variable (secrets : Secrets) (ids : List String)

theorem lastEffectOn?_puts (lease : Option LeaseId) (id : String) :
    Operation.lastEffectOn? (key id) (secrets.toList.map fun (id, value) => .put (key id) value lease) =
      secrets[id]?.map fun value => some (value, lease) := by
  cases hlast : Operation.lastEffectOn? (key id)
      (secrets.toList.map fun (id, value) => .put (key id) value lease) with
  | none =>
    cases hvalue : secrets[id]? with
    | none => rfl
    | some value =>
      have hmem := Std.ExtTreeMap.mem_toList_iff_getElem?_eq_some.2 hvalue
      have heffect := Operation.lastEffectOn?_eq_none.1 hlast _ (List.mem_map_of_mem hmem)
      simp [Operation.effectOn?] at heffect
  | some effect =>
    obtain ⟨op, hop, heffect⟩ := Operation.exists_mem_of_lastEffectOn? hlast
    obtain ⟨⟨id', value⟩, hmem, rfl⟩ := List.mem_map.1 hop
    rw [Operation.effectOn?] at heffect
    split at heffect
    · next heq =>
      cases key_injective heq
      rw [Std.ExtTreeMap.mem_toList_iff_getElem?_eq_some.1 hmem, ← heffect]
      rfl
    · cases heffect

theorem lastEffectOn?_deletes (id : String) :
    Operation.lastEffectOn? (key id) (ids.map fun id => .delete (key id)) =
      if id ∈ ids then some none else none := by
  induction ids with
  | nil => rfl
  | cons first ids ih =>
    rw [List.map_cons, Operation.lastEffectOn?, ih, Operation.effectOn?]
    by_cases hid : id ∈ ids
    · simp [hid]
    · simp [hid, key_injective.eq_iff, eq_comm]

/-- Secrets that are written are there afterwards, with the deadline of their lease. -/
theorem secret?_commit_puts (ks : Keyspace) (lease : Option LeaseId) (id : String) :
    (ks.commit (secrets.toList.map fun (id, value) => .put (key id) value lease)).2.secret? id =
      (secrets[id]?.map (⟨·, lease.bind ks.deadline?⟩)).or (ks.secret? id) := by
  rw [secret?_commit, lastEffectOn?_puts]
  cases secrets[id]? <;> rfl

theorem secures_commit_puts {l : LeaseId} (hne : lease ≠ some l)
    (h : (ks.commit (secrets.toList.map fun (id, value) =>
      .put (key id) value lease)).2.Secures l) : ks.Secures l := by
  obtain ⟨id, hid⟩ := h
  rw [leaseOf_commit, lastEffectOn?_puts] at hid
  cases hvalue : secrets[id]? with
  | none =>
    rw [hvalue] at hid
    exact ⟨id, by rw [leaseOf_eq_content?]; exact hid⟩
  | some value =>
    rw [hvalue] at hid
    exact absurd hid hne

theorem secret?_commit_deletes (ks : Keyspace) (id : String) :
    (ks.commit (ids.map fun id => .delete (key id))).2.secret? id =
      if id ∈ ids then none else ks.secret? id := by
  rw [secret?_commit, lastEffectOn?_deletes]
  split <;> rfl

theorem secures_commit_deletes {l : LeaseId}
    (h : (ks.commit (ids.map fun id => .delete (key id))).2.Secures l) : ks.Secures l := by
  obtain ⟨id, hid⟩ := h
  rw [leaseOf_commit, lastEffectOn?_deletes] at hid
  split at hid
  · cases hid
  · exact ⟨id, by rw [leaseOf_eq_content?]; exact hid⟩

theorem Consistent.satisfies_absent_key (h : ks.Consistent) (id : String) :
    ks.satisfies (.absent (key id)) = !(ks.secret? id).isSome := by
  rw [Bool.eq_iff_iff, h.satisfies_absent, isSome_secret?, contains_records, Bool.not_eq_true',
    Option.isSome_eq_false_iff, Option.isNone_iff_eq_none, content?_eq_none]

theorem Consistent.satisfies_present_key (h : ks.Consistent) (id : String) :
    ks.satisfies (.present (key id)) = (ks.secret? id).isSome := by
  rw [Bool.eq_iff_iff, h.satisfies_present, isSome_secret?,
    Std.ExtTreeMap.contains_eq_isSome_getElem?, Option.isSome_iff_exists]

/-- Secrets may be written if none of them is there. -/
theorem Consistent.satisfies_writing (h : ks.Consistent) (lease : Option LeaseId) :
    (writing secrets.toList lease).conditions.all ks.satisfies =
      (secrets.keys.filter fun id => (ks.secret? id).isSome).isEmpty := by
  rw [← Std.ExtTreeMap.map_fst_toList_eq_keys, Bool.eq_iff_iff, List.isEmpty_iff,
    List.filter_eq_nil_iff, List.forall_mem_map]
  simp only [writing, List.all_map, List.all_eq_true, Function.comp_apply, h.satisfies_absent_key,
    Bool.not_eq_true', Bool.not_eq_true]

/-- Secrets may be deleted if all of them are there. -/
theorem Consistent.satisfies_deleting (h : ks.Consistent) :
    (deleting ids).conditions.all ks.satisfies = ids.all fun id => (ks.secret? id).isSome := by
  simp only [deleting, List.all_map]
  congr 1
  funext id
  exact h.satisfies_present_key id

/-! ## Looking up secrets -/

theorem applyAll_gets (ks : Keyspace) (ids : List String) :
    ks.applyAll (ids.map fun id => .get (key id)) =
      (ids.map fun id => .got ks.records[key id]?.toList, ks) := by
  induction ids with
  | nil => rfl
  | cons id ids ih =>
    show (_ :: (ks.applyAll (ids.map _)).1, (ks.applyAll (ids.map _)).2) = _
    rw [ih]
    rfl

/-- Looking up secrets changes nothing. -/
theorem commit_gets (ks : Keyspace) (ids : List String) :
    ks.commit (ids.map fun id => .get (key id)) =
      (ids.map fun id => .got ks.records[key id]?.toList, ks) := by
  have hunchanged : (ids.map fun id => Operation.get (key id)).any ks.isChangedBy = false := by
    simp [isChangedBy]
  rw [commit_eq, atRevisionOf, hunchanged]
  exact applyAll_gets ks ids

/-- The secrets that are found to be there are those that are there. -/
theorem conflicts_gets (ks : Keyspace) (ids : List String) :
    conflicts ids (ids.map fun id => .got ks.records[key id]?.toList) =
      ids.filter fun id => (ks.secret? id).isSome := by
  induction ids with
  | nil => rfl
  | cons id ids ih =>
    rw [conflicts] at ih ⊢
    rw [List.map_cons, List.zip_cons_cons, List.filter_cons, List.filter_cons, isSome_secret?,
      Std.ExtTreeMap.contains_eq_isSome_getElem?]
    cases ks.records[key id]? with
    | none => simpa [Outcome.records?] using ih
    | some r => simpa [Outcome.records?] using ih

end Keyspace

end ClusterVault
