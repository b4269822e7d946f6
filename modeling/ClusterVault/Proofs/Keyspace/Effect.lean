import ClusterVault.Proofs.Keyspace.Consistent

/-!
# What operations leave behind

Of a list of operations only the last one that writes a key decides what is stored under that key.
This module reads that effect off the operations alone and shows that running them has it. It also
gives the outcomes of the two kinds of lists that read or delete and nothing else.

## Main definitions

- `Keyspace.content?`: the value under a key and the lease it is attached to
- `Operation.effectOn?`: what one operation leaves under a key
- `Operation.lastEffectOn?`: what a list of operations leaves under a key
-/

namespace ClusterVault

/-- What an operation leaves under a key: a value and its lease, or nothing at all. The answer is
    `none` if the operation does not write the key. -/
def Operation.effectOn? (key : Bytes) : Operation → Option (Option (Bytes × Option LeaseId))
  | put k value lease => if k = key then some (some (value, lease)) else none
  | get _ => none
  | delete k => if k = key then some none else none

/-- What a list of operations leaves under a key, if one of them writes the key. -/
def Operation.lastEffectOn? (key : Bytes) :
    List Operation → Option (Option (Bytes × Option LeaseId))
  | [] => none
  | op :: ops => (lastEffectOn? key ops).or (op.effectOn? key)

theorem Operation.lastEffectOn?_append (key : Bytes) (first second : List Operation) :
    lastEffectOn? key (first ++ second) =
      (lastEffectOn? key second).or (lastEffectOn? key first) := by
  induction first with
  | nil => simp [lastEffectOn?]
  | cons op first ih =>
    show (lastEffectOn? key (first ++ second)).or _ = _
    rw [ih, Option.or_assoc]
    rfl

theorem Operation.lastEffectOn?_eq_none {key : Bytes} {ops : List Operation} :
    lastEffectOn? key ops = none ↔ ∀ op ∈ ops, op.effectOn? key = none := by
  induction ops with
  | nil => simp [lastEffectOn?]
  | cons op ops ih => simp [lastEffectOn?, ih, and_comm]

/-- What is left under a key was left by one of the operations. -/
theorem Operation.exists_mem_of_lastEffectOn? {key : Bytes} {ops : List Operation}
    {effect : Option (Bytes × Option LeaseId)} (h : lastEffectOn? key ops = some effect) :
    ∃ op ∈ ops, op.effectOn? key = some effect := by
  induction ops with
  | nil => cases h
  | cons op ops ih =>
    rcases Option.or_eq_some_iff.1 h with hlater | ⟨-, hfirst⟩
    · obtain ⟨op', hop', heffect⟩ := ih hlater
      exact ⟨op', List.mem_cons_of_mem _ hop', heffect⟩
    · exact ⟨op, List.mem_cons_self, hfirst⟩

theorem Operation.put_mem_of_lastEffectOn? {key value : Bytes} {lease : Option LeaseId}
    {ops : List Operation} (h : lastEffectOn? key ops = some (some (value, lease))) :
    .put key value lease ∈ ops := by
  obtain ⟨op, hop, heffect⟩ := exists_mem_of_lastEffectOn? h
  cases op with
  | put k v l =>
    rw [effectOn?] at heffect
    split at heffect
    · next heq =>
      cases heffect
      exact heq ▸ hop
    · cases heffect
  | get k => cases heffect
  | delete k =>
    rw [effectOn?] at heffect
    split at heffect <;> cases heffect

theorem Operation.effectOn?_of_key_ne {key : Bytes} {op : Operation} (h : op.key ≠ key) :
    op.effectOn? key = none := by
  cases op with
  | put k v l => exact if_neg h
  | get k => rfl
  | delete k => exact if_neg h

namespace Keyspace

/-- The value under a key and the lease it is attached to. -/
def content? (ks : Keyspace) (key : Bytes) : Option (Bytes × Option LeaseId) :=
  ks.records[key]?.map fun r => (r.value, r.lease)

variable {ks : Keyspace} {key : Bytes} {ops : List Operation}

theorem content?_eq_none : ks.content? key = none ↔ ks.records[key]? = none := by
  simp [content?]

theorem contains_records : ks.records.contains key = (ks.content? key).isSome := by
  rw [Std.ExtTreeMap.contains_eq_isSome_getElem?, content?, Option.isSome_map]

theorem leaseOf_eq_content? : ks.leaseOf key = (ks.content? key).bind (·.2) := by
  rw [leaseOf, content?]
  cases ks.records[key]? <;> rfl

theorem content?_put (ks : Keyspace) (k value : Bytes) (lease : Option LeaseId) (key : Bytes) :
    (ks.put k value lease).content? key =
      if k = key then some (value, lease) else ks.content? key := by
  rw [content?, content?, getElem?_put]
  by_cases heq : k = key
  · simp only [heq, if_true, Option.map_some]
    cases ks.records[key]? <;> rfl
  · simp only [heq, if_false]

theorem content?_delete (ks : Keyspace) (k key : Bytes) :
    (ks.delete k).content? key = if k = key then none else ks.content? key := by
  rw [content?, content?, getElem?_delete]
  by_cases heq : k = key <;> simp [heq]

theorem content?_apply (ks : Keyspace) (op : Operation) (key : Bytes) :
    (ks.apply op).2.content? key = (op.effectOn? key).getD (ks.content? key) := by
  cases op with
  | put k v l =>
    show (ks.put k v l).content? key = _
    rw [content?_put, Operation.effectOn?]
    split <;> rfl
  | get k => rfl
  | delete k =>
    rw [Operation.effectOn?, apply]
    split
    · show (ks.delete k).content? key = _
      rw [content?_delete]
      split <;> rfl
    · next habsent =>
      -- nothing is deleted, but then nothing was there either
      split
      · next heq =>
        subst heq
        rw [contains_records, Bool.not_eq_true, Option.isSome_eq_false_iff] at habsent
        exact Option.isNone_iff_eq_none.1 habsent
      · rfl

/-- Running operations leaves under every key what the last of them to write it says. -/
theorem content?_applyAll (ks : Keyspace) (ops : List Operation) (key : Bytes) :
    (ks.applyAll ops).2.content? key =
      (Operation.lastEffectOn? key ops).getD (ks.content? key) := by
  induction ops generalizing ks with
  | nil => rfl
  | cons op ops ih =>
    -- the effect of the first operation counts if no later one has an effect
    rw [applyAll_cons, ih, content?_apply, Operation.lastEffectOn?]
    cases Operation.lastEffectOn? key ops <;> rfl

theorem content?_commit (ks : Keyspace) (ops : List Operation) (key : Bytes) :
    (ks.commit ops).2.content? key =
      (Operation.lastEffectOn? key ops).getD (ks.content? key) := by
  rw [commit_eq, content?_applyAll, content?, records_atRevisionOf]
  rfl

theorem getElem?_apply_of_effectOn?_eq_none {op : Operation} (h : op.effectOn? key = none) :
    (ks.apply op).2.records[key]? = ks.records[key]? := by
  cases op with
  | put k v l =>
    have hne : k ≠ key := fun heq => by simp [Operation.effectOn?, heq] at h
    exact (getElem?_put ks k v l key).trans (if_neg hne)
  | get k => rfl
  | delete k =>
    have hne : k ≠ key := fun heq => by simp [Operation.effectOn?, heq] at h
    rw [apply]
    split
    · exact (getElem?_delete ks k key).trans (if_neg hne)
    · rfl

/-- A key that no operation writes keeps its whole record. -/
theorem getElem?_applyAll_of_effectOn?_eq_none (h : ∀ op ∈ ops, op.effectOn? key = none) :
    (ks.applyAll ops).2.records[key]? = ks.records[key]? := by
  induction ops generalizing ks with
  | nil => rfl
  | cons op ops ih =>
    rw [applyAll_cons, ih fun op' hop' => h op' (List.mem_cons_of_mem _ hop'),
      getElem?_apply_of_effectOn?_eq_none (h op List.mem_cons_self)]

theorem getElem?_commit_of_effectOn?_eq_none (h : ∀ op ∈ ops, op.effectOn? key = none) :
    (ks.commit ops).2.records[key]? = ks.records[key]? := by
  rw [commit_eq, getElem?_applyAll_of_effectOn?_eq_none h, records_atRevisionOf]

/-! ## Operations that change nothing -/

theorem apply_of_not_isChangedBy {op : Operation} (h : ks.isChangedBy op = false) :
    (ks.apply op).2 = ks := by
  cases op with
  | put k v l => simp [isChangedBy] at h
  | get k => rfl
  | delete k =>
    rw [isChangedBy] at h
    simp [apply, h]

theorem applyAll_of_not_isChangedBy (h : ops.any ks.isChangedBy = false) :
    (ks.applyAll ops).2 = ks := by
  induction ops with
  | nil => rfl
  | cons op ops ih =>
    rw [List.any_cons, Bool.or_eq_false_iff] at h
    rw [applyAll_cons, apply_of_not_isChangedBy h.1, ih h.2]

/-- A transaction whose operations change nothing leaves the keyspace as it is. -/
theorem commit_of_not_isChangedBy (h : ops.any ks.isChangedBy = false) :
    (ks.commit ops).2 = ks := by
  have hrev : ks.atRevisionOf ops = ks := by
    rw [atRevisionOf, h]
    rfl
  rw [commit_eq, hrev, applyAll_of_not_isChangedBy h]

/-- Dropping a lease keeps the content of the keys that are not attached to it. -/
theorem Consistent.content?_dropLease (h : ks.Consistent) (id : LeaseId) (key : Bytes) :
    (ks.dropLease id).content? key = (ks.content? key).filter (·.2 ≠ some id) := by
  rw [content?, content?, h.getElem?_dropLease]
  cases ks.records[key]? with
  | none => rfl
  | some r => by_cases hl : r.lease = some id <;> simp [hl, Option.filter]

theorem Consistent.content?_expire (h : ks.Consistent) (now : Instant) (key : Bytes) :
    (ks.expire now).content? key = (ks.content? key).filter (ks.lastsBeyond now ·.2) := by
  rw [content?, content?, h.getElem?_expire]
  cases ks.records[key]? with
  | none => rfl
  | some r => cases hl : ks.lastsBeyond now r.lease <;> simp [hl, Option.filter]

end Keyspace

end ClusterVault
