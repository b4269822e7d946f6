import ClusterVault.Keyspace.Basic

/-!
# What the operations on a keyspace change

A keyspace is looked at through four functions: the record under a key, the keys attached to a
lease, the deadline of a lease, and the two counters. This module says what every operation does to
each of them, so that later proofs do not open the operations again.

## Main definitions

- `Keyspace.keysOf`: the keys attached to a lease
- `Keyspace.deadline?`: when a lease ends
- `Keyspace.leaseOf`: the lease that the record under a key is attached to
- `Keyspace.lastsBeyond`: whether a lease leaves a record there after an instant
- `Keyspace.atRevisionOf`: the keyspace in which a transaction runs its operations
-/

namespace ClusterVault.Keyspace

/-- The keys attached to a lease. There are none if there is no such lease. -/
def keysOf (ks : Keyspace) (id : LeaseId) : Std.ExtTreeSet Bytes :=
  match ks.leases[id]? with
  | none => ∅
  | some l => l.keys

/-- When a lease ends, if there is such a lease. -/
def deadline? (ks : Keyspace) (id : LeaseId) : Option Instant :=
  ks.leases[id]?.map (·.deadline)

/-- The lease that the record under a key is attached to. -/
def leaseOf (ks : Keyspace) (key : Bytes) : Option LeaseId := ks.records[key]?.bind (·.lease)

/-- Whether a record with this lease, if it has one, is still there after an instant. -/
def lastsBeyond (ks : Keyspace) (now : Instant) (lease : Option LeaseId) : Bool :=
  lease.all fun id => (ks.deadline? id).all (now < ·)

variable {ks : Keyspace} {id id' : LeaseId} {key k value : Bytes} {lease : Option LeaseId}

theorem deadline?_eq_none : ks.deadline? id = none ↔ ks.leases[id]? = none := by
  simp [deadline?]

theorem contains_leases : ks.leases.contains id = (ks.deadline? id).isSome := by
  rw [Std.ExtTreeMap.contains_eq_isSome_getElem?, deadline?, Option.isSome_map]

/-- A lease that does not exist has no keys. -/
theorem keysOf_of_deadline?_eq_none (h : ks.deadline? id = none) : ks.keysOf id = ∅ := by
  rw [deadline?_eq_none] at h
  simp [keysOf, h]

theorem deadline?_of_mem_keysOf (h : k ∈ ks.keysOf id) : ∃ d, ks.deadline? id = some d := by
  cases hd : ks.deadline? id with
  | none =>
    rw [keysOf_of_deadline?_eq_none hd] at h
    exact absurd h Std.ExtTreeSet.not_mem_empty
  | some d => exact ⟨d, rfl⟩

/-! ## Replacing the keys of a lease -/

section SetKeys

variable {l : Lease} {keys : Std.ExtTreeSet Bytes}

theorem deadline?_setKeys (h : ks.leases[id]? = some l) (id' : LeaseId) :
    deadline? { ks with leases := ks.leases.insert id { l with keys } } id' = ks.deadline? id' := by
  simp only [deadline?, Std.ExtTreeMap.getElem?_insert, Std.LawfulEqOrd.compare_eq_iff_eq]
  split
  · next heq => subst heq; simp [h]
  · rfl

theorem keysOf_setKeys (id' : LeaseId) :
    keysOf { ks with leases := ks.leases.insert id { l with keys } } id' =
      if id = id' then keys else ks.keysOf id' := by
  simp only [keysOf, Std.ExtTreeMap.getElem?_insert, Std.LawfulEqOrd.compare_eq_iff_eq]
  by_cases heq : id = id' <;> simp [heq]

end SetKeys

/-! ## Attaching and detaching -/

/-- Attaching and detaching replace the keys of one lease, or do nothing if there is no such lease. -/
theorem removeFromLease_cases (ks : Keyspace) (id : LeaseId) (key : Bytes) :
    (ks.leases[id]? = none ∧ ks.removeFromLease id key = ks) ∨
      ∃ l, ks.leases[id]? = some l ∧ ks.removeFromLease id key =
        { ks with leases := ks.leases.insert id { l with keys := l.keys.erase key } } := by
  cases hl : ks.leases[id]? with
  | none => exact .inl ⟨rfl, by simp only [removeFromLease, hl]⟩
  | some l => exact .inr ⟨l, rfl, by simp only [removeFromLease, hl]⟩

theorem addToLease_cases (ks : Keyspace) (id : LeaseId) (key : Bytes) :
    (ks.leases[id]? = none ∧ ks.addToLease id key = ks) ∨
      ∃ l, ks.leases[id]? = some l ∧ ks.addToLease id key =
        { ks with leases := ks.leases.insert id { l with keys := l.keys.insert key } } := by
  cases hl : ks.leases[id]? with
  | none => exact .inl ⟨rfl, by simp only [addToLease, hl]⟩
  | some l => exact .inr ⟨l, rfl, by simp only [addToLease, hl]⟩

@[simp] theorem records_removeFromLease : (ks.removeFromLease id key).records = ks.records := by
  rcases ks.removeFromLease_cases id key with ⟨-, h⟩ | ⟨l, -, h⟩ <;> rw [h]

@[simp] theorem revision_removeFromLease : (ks.removeFromLease id key).revision = ks.revision := by
  rcases ks.removeFromLease_cases id key with ⟨-, h⟩ | ⟨l, -, h⟩ <;> rw [h]

@[simp] theorem nextLease_removeFromLease :
    (ks.removeFromLease id key).nextLease = ks.nextLease := by
  rcases ks.removeFromLease_cases id key with ⟨-, h⟩ | ⟨l, -, h⟩ <;> rw [h]

@[simp] theorem deadline?_removeFromLease :
    (ks.removeFromLease id key).deadline? id' = ks.deadline? id' := by
  rcases ks.removeFromLease_cases id key with ⟨-, h⟩ | ⟨l, hl, h⟩
  · rw [h]
  · rw [h, deadline?_setKeys hl]

theorem mem_keysOf_removeFromLease :
    k ∈ (ks.removeFromLease id key).keysOf id' ↔ k ∈ ks.keysOf id' ∧ ¬(id = id' ∧ key = k) := by
  rcases ks.removeFromLease_cases id key with ⟨hnone, h⟩ | ⟨l, hl, h⟩
  · rw [h]
    constructor
    · intro hk
      refine ⟨hk, ?_⟩
      -- a lease that does not exist has no keys
      rintro ⟨rfl, rfl⟩
      simp [keysOf, hnone] at hk
    · exact And.left
  · rw [h, keysOf_setKeys]
    by_cases heq : id = id'
    · subst heq
      simp [keysOf, hl, Std.ExtTreeSet.mem_erase, and_comm]
    · simp [heq]

@[simp] theorem records_addToLease : (ks.addToLease id key).records = ks.records := by
  rcases ks.addToLease_cases id key with ⟨-, h⟩ | ⟨l, -, h⟩ <;> rw [h]

@[simp] theorem revision_addToLease : (ks.addToLease id key).revision = ks.revision := by
  rcases ks.addToLease_cases id key with ⟨-, h⟩ | ⟨l, -, h⟩ <;> rw [h]

@[simp] theorem nextLease_addToLease : (ks.addToLease id key).nextLease = ks.nextLease := by
  rcases ks.addToLease_cases id key with ⟨-, h⟩ | ⟨l, -, h⟩ <;> rw [h]

@[simp] theorem deadline?_addToLease :
    (ks.addToLease id key).deadline? id' = ks.deadline? id' := by
  rcases ks.addToLease_cases id key with ⟨-, h⟩ | ⟨l, hl, h⟩
  · rw [h]
  · rw [h, deadline?_setKeys hl]

theorem mem_keysOf_addToLease (hid : (ks.deadline? id).isSome) :
    k ∈ (ks.addToLease id key).keysOf id' ↔ k ∈ ks.keysOf id' ∨ (id = id' ∧ key = k) := by
  rcases ks.addToLease_cases id key with ⟨hnone, -⟩ | ⟨l, hl, h⟩
  · -- excluded by the check on the leases of a transaction
    simp [deadline?, hnone] at hid
  · rw [h, keysOf_setKeys]
    by_cases heq : id = id'
    · subst heq
      simp [keysOf, hl, Std.ExtTreeSet.mem_insert, or_comm]
    · simp [heq]

@[simp] theorem records_attach : (ks.attach key lease).records = ks.records := by
  cases lease <;> simp [attach]

@[simp] theorem revision_attach : (ks.attach key lease).revision = ks.revision := by
  cases lease <;> simp [attach]

@[simp] theorem nextLease_attach : (ks.attach key lease).nextLease = ks.nextLease := by
  cases lease <;> simp [attach]

@[simp] theorem deadline?_attach : (ks.attach key lease).deadline? id = ks.deadline? id := by
  cases lease <;> simp [attach]

theorem mem_keysOf_attach (hlease : ∀ l, lease = some l → (ks.deadline? l).isSome) :
    k ∈ (ks.attach key lease).keysOf id ↔ k ∈ ks.keysOf id ∨ (lease = some id ∧ key = k) := by
  cases lease with
  | none => simp [attach]
  | some l => simpa [attach] using mem_keysOf_addToLease (hlease l rfl)

/-- Releasing a key takes the key that its record names off the lease of the record. -/
theorem release_cases (ks : Keyspace) (key : Bytes) :
    (ks.leaseOf key = none ∧ ks.release key = ks) ∨
      ∃ r l, ks.records[key]? = some r ∧ ks.leaseOf key = some l ∧
        ks.release key = ks.removeFromLease l r.key := by
  cases hr : ks.records[key]? with
  | none => exact .inl ⟨by simp [leaseOf, hr], by simp only [release, hr]⟩
  | some r =>
    cases hl : r.lease with
    | none => exact .inl ⟨by simp [leaseOf, hr, hl], by simp only [release, hr, detach, hl]⟩
    | some l =>
      refine .inr ⟨r, l, rfl, ?_, ?_⟩
      · simp [leaseOf, hr, hl]
      · simp only [release, hr, detach, hl]

@[simp] theorem records_release : (ks.release key).records = ks.records := by
  rcases ks.release_cases key with ⟨-, h⟩ | ⟨r, l, -, -, h⟩ <;> simp [h]

@[simp] theorem revision_release : (ks.release key).revision = ks.revision := by
  rcases ks.release_cases key with ⟨-, h⟩ | ⟨r, l, -, -, h⟩ <;> simp [h]

@[simp] theorem nextLease_release : (ks.release key).nextLease = ks.nextLease := by
  rcases ks.release_cases key with ⟨-, h⟩ | ⟨r, l, -, -, h⟩ <;> simp [h]

@[simp] theorem deadline?_release : (ks.release key).deadline? id = ks.deadline? id := by
  rcases ks.release_cases key with ⟨-, h⟩ | ⟨r, l, -, -, h⟩ <;> simp [h]

/-- Releasing a key takes it off the lease of its record, given that the record knows its key. -/
theorem mem_keysOf_release (hkey : ∀ r, ks.records[key]? = some r → r.key = key) :
    k ∈ (ks.release key).keysOf id ↔ k ∈ ks.keysOf id ∧ ¬(ks.leaseOf key = some id ∧ key = k) := by
  rcases ks.release_cases key with ⟨hnone, h⟩ | ⟨r, l, hr, hl, h⟩
  · simp [h, hnone]
  · rw [h, hl, mem_keysOf_removeFromLease, hkey r hr, Option.some_inj]

/-! ## Writing and deleting -/

theorem getElem?_put (ks : Keyspace) (key value : Bytes) (lease : Option LeaseId) (k : Bytes) :
    (ks.put key value lease).records[k]? =
      if key = k then some (ks.written key value lease ks.records[key]?) else ks.records[k]? := by
  simp [put, Std.ExtTreeMap.getElem?_insert]

@[simp] theorem revision_put : (ks.put key value lease).revision = ks.revision := by
  simp [put]

@[simp] theorem nextLease_put : (ks.put key value lease).nextLease = ks.nextLease := by
  simp [put]

@[simp] theorem deadline?_put : (ks.put key value lease).deadline? id = ks.deadline? id := by
  show ((ks.release key).attach key lease).deadline? id = _
  simp

/-- A write moves its key to the lease it names. -/
theorem mem_keysOf_put (hkey : ∀ r, ks.records[key]? = some r → r.key = key)
    (hlease : ∀ l, lease = some l → (ks.deadline? l).isSome) :
    k ∈ (ks.put key value lease).keysOf id ↔
      (k ∈ ks.keysOf id ∧ ¬(ks.leaseOf key = some id ∧ key = k)) ∨ (lease = some id ∧ key = k) := by
  show k ∈ ((ks.release key).attach key lease).keysOf id ↔ _
  rw [mem_keysOf_attach (by simpa using hlease), mem_keysOf_release hkey]

theorem getElem?_delete (ks : Keyspace) (key k : Bytes) :
    (ks.delete key).records[k]? = if key = k then none else ks.records[k]? := by
  simp [delete, Std.ExtTreeMap.getElem?_erase]

@[simp] theorem revision_delete : (ks.delete key).revision = ks.revision := by
  simp [delete]

@[simp] theorem nextLease_delete : (ks.delete key).nextLease = ks.nextLease := by
  simp [delete]

@[simp] theorem deadline?_delete : (ks.delete key).deadline? id = ks.deadline? id := by
  show (ks.release key).deadline? id = _
  simp

theorem mem_keysOf_delete (hkey : ∀ r, ks.records[key]? = some r → r.key = key) :
    k ∈ (ks.delete key).keysOf id ↔ k ∈ ks.keysOf id ∧ ¬(ks.leaseOf key = some id ∧ key = k) :=
  mem_keysOf_release hkey

/-! ## Running operations -/

theorem applyAll_cons (ks : Keyspace) (op : Operation) (ops : List Operation) :
    (ks.applyAll (op :: ops)).2 = ((ks.apply op).2.applyAll ops).2 := rfl

@[simp] theorem revision_apply (op : Operation) : (ks.apply op).2.revision = ks.revision := by
  cases op with
  | put | get => simp [apply]
  | delete => simp only [apply]; split <;> simp

@[simp] theorem nextLease_apply (op : Operation) : (ks.apply op).2.nextLease = ks.nextLease := by
  cases op with
  | put | get => simp [apply]
  | delete => simp only [apply]; split <;> simp

@[simp] theorem deadline?_apply (op : Operation) :
    (ks.apply op).2.deadline? id = ks.deadline? id := by
  cases op with
  | put | get => simp [apply]
  | delete => simp only [apply]; split <;> simp

@[simp] theorem revision_applyAll (ops : List Operation) :
    (ks.applyAll ops).2.revision = ks.revision := by
  induction ops generalizing ks with
  | nil => rfl
  | cons op ops ih => rw [applyAll_cons, ih, revision_apply]

@[simp] theorem nextLease_applyAll (ops : List Operation) :
    (ks.applyAll ops).2.nextLease = ks.nextLease := by
  induction ops generalizing ks with
  | nil => rfl
  | cons op ops ih => rw [applyAll_cons, ih, nextLease_apply]

@[simp] theorem deadline?_applyAll (ops : List Operation) :
    (ks.applyAll ops).2.deadline? id = ks.deadline? id := by
  induction ops generalizing ks with
  | nil => rfl
  | cons op ops ih => rw [applyAll_cons, ih, deadline?_apply]

/-- The keyspace in which a transaction runs its operations. -/
def atRevisionOf (ks : Keyspace) (ops : List Operation) : Keyspace :=
  if ops.any ks.isChangedBy then ks.bump else ks

theorem commit_eq (ks : Keyspace) (ops : List Operation) :
    ks.commit ops = (ks.atRevisionOf ops).applyAll ops := rfl

section AtRevisionOf

variable {ops : List Operation}

@[simp] theorem records_atRevisionOf : (ks.atRevisionOf ops).records = ks.records := by
  unfold atRevisionOf; split <;> rfl

@[simp] theorem leases_atRevisionOf : (ks.atRevisionOf ops).leases = ks.leases := by
  unfold atRevisionOf; split <;> rfl

@[simp] theorem nextLease_atRevisionOf : (ks.atRevisionOf ops).nextLease = ks.nextLease := by
  unfold atRevisionOf; split <;> rfl

theorem revision_atRevisionOf :
    (ks.atRevisionOf ops).revision =
      if ops.any ks.isChangedBy then ks.revision + 1 else ks.revision := by
  unfold atRevisionOf; split <;> rfl

@[simp] theorem keysOf_atRevisionOf : (ks.atRevisionOf ops).keysOf id = ks.keysOf id := by
  simp only [keysOf, leases_atRevisionOf]

@[simp] theorem deadline?_atRevisionOf : (ks.atRevisionOf ops).deadline? id = ks.deadline? id := by
  simp only [deadline?, leases_atRevisionOf]

end AtRevisionOf

/-! ## Granting and dropping leases -/

theorem deadline?_grantLease (d : Instant) :
    (ks.grantLease d).deadline? id = if ks.nextLease = id then some d else ks.deadline? id := by
  simp only [deadline?, grantLease, Std.ExtTreeMap.getElem?_insert,
    Std.LawfulEqOrd.compare_eq_iff_eq]
  by_cases h : ks.nextLease = id <;> simp [h]

/-- A lease starts without keys. -/
theorem keysOf_grantLease (d : Instant) :
    (ks.grantLease d).keysOf id = if ks.nextLease = id then ∅ else ks.keysOf id := by
  simp only [keysOf, grantLease, Std.ExtTreeMap.getElem?_insert,
    Std.LawfulEqOrd.compare_eq_iff_eq]
  by_cases h : ks.nextLease = id <;> simp [h]

theorem getElem?_foldl_erase (keys : List Bytes) (m : Std.ExtTreeMap Bytes Record) (k : Bytes) :
    (keys.foldl (·.erase ·) m)[k]? = if k ∈ keys then none else m[k]? := by
  -- the first key is erased from the map before the others, so the map varies
  induction keys generalizing m with
  | nil => simp
  | cons key keys ih =>
    rw [List.foldl_cons, ih, Std.ExtTreeMap.getElem?_erase]
    by_cases h : k ∈ keys
    · simp [h]
    · simp only [h, if_false, List.mem_cons, or_false, Std.LawfulEqOrd.compare_eq_iff_eq,
        eq_comm (a := k)]

theorem dropLease_of_eq_none (h : ks.leases[id]? = none) : ks.dropLease id = ks := by
  simp only [dropLease, h]

/-- What dropping a lease does. A lease without keys leaves the records and the revision alone. -/
theorem dropLease_of_eq_some {l : Lease} (h : ks.leases[id]? = some l) :
    ks.dropLease id =
      { ks with
        leases := ks.leases.erase id
        records := l.keys.toList.foldl (·.erase ·) ks.records
        revision := if l.keys.isEmpty then ks.revision else ks.revision + 1 } := by
  simp only [dropLease, h]
  split
  · next hempty =>
    have hnil : l.keys.toList = [] := by simpa using hempty
    rw [hnil]
    rfl
  · rfl

/-- Dropping a lease removes the records under its keys and no others. -/
theorem getElem?_dropLease (ks : Keyspace) (id : LeaseId) (k : Bytes) :
    (ks.dropLease id).records[k]? = if k ∈ ks.keysOf id then none else ks.records[k]? := by
  cases hl : ks.leases[id]? with
  | none => simp [dropLease_of_eq_none hl, keysOf, hl]
  | some l =>
    rw [dropLease_of_eq_some hl, getElem?_foldl_erase]
    simp [keysOf, hl]

theorem deadline?_dropLease :
    (ks.dropLease id).deadline? id' = if id = id' then none else ks.deadline? id' := by
  cases hl : ks.leases[id]? with
  | none =>
    rw [dropLease_of_eq_none hl]
    by_cases heq : id = id'
    · subst heq
      simp [deadline?, hl]
    · simp [heq]
  | some l =>
    simp only [dropLease_of_eq_some hl, deadline?, Std.ExtTreeMap.getElem?_erase]
    by_cases heq : id = id' <;> simp [heq]

theorem keysOf_dropLease :
    (ks.dropLease id).keysOf id' = if id = id' then ∅ else ks.keysOf id' := by
  cases hl : ks.leases[id]? with
  | none =>
    rw [dropLease_of_eq_none hl]
    by_cases heq : id = id'
    · subst heq
      simp [keysOf, hl]
    · simp [heq]
  | some l =>
    simp only [dropLease_of_eq_some hl, keysOf, Std.ExtTreeMap.getElem?_erase]
    by_cases heq : id = id' <;> simp [heq]

/-- Dropping a lease counts as a change if there are keys attached to it. -/
theorem revision_dropLease :
    (ks.dropLease id).revision = if (ks.keysOf id).isEmpty then ks.revision else ks.revision + 1 := by
  cases hl : ks.leases[id]? with
  | none => simp [dropLease_of_eq_none hl, keysOf, hl]
  | some l => simp only [dropLease_of_eq_some hl, keysOf, hl]

@[simp] theorem nextLease_dropLease : (ks.dropLease id).nextLease = ks.nextLease := by
  cases hl : ks.leases[id]? with
  | none => rw [dropLease_of_eq_none hl]
  | some l => rw [dropLease_of_eq_some hl]

/-! ## Expiry -/

theorem mem_expired {now : Instant} :
    id ∈ ks.expired now ↔ ∃ d, ks.deadline? id = some d ∧ d ≤ now := by
  rw [expired, deadline?, Std.ExtTreeMap.mem_keys, Std.ExtTreeMap.mem_iff_isSome_getElem?,
    Std.ExtTreeMap.getElem?_filter']
  cases ks.leases[id]? with
  | none => simp
  | some l => simp [Option.filter]

theorem deadline?_foldl_dropLease (ids : List LeaseId) :
    (ids.foldl dropLease ks).deadline? id = if id ∈ ids then none else ks.deadline? id := by
  induction ids generalizing ks with
  | nil => simp
  | cons first ids ih =>
    rw [List.foldl_cons, ih, deadline?_dropLease]
    by_cases h : id ∈ ids
    · simp [h]
    · simp [h, eq_comm]

/-- Expiry ends exactly the leases whose time has come. -/
theorem deadline?_expire (now : Instant) :
    (ks.expire now).deadline? id = (ks.deadline? id).filter (now < ·) := by
  rw [expire, deadline?_foldl_dropLease]
  cases hd : ks.deadline? id with
  | none => simp
  | some d => by_cases hle : d ≤ now <;> simp [mem_expired, hd, hle, Option.filter]

@[simp] theorem nextLease_foldl_dropLease (ids : List LeaseId) :
    (ids.foldl dropLease ks).nextLease = ks.nextLease := by
  induction ids generalizing ks with
  | nil => rfl
  | cons first ids ih => rw [List.foldl_cons, ih, nextLease_dropLease]

@[simp] theorem nextLease_expire (now : Instant) : (ks.expire now).nextLease = ks.nextLease :=
  nextLease_foldl_dropLease _

end ClusterVault.Keyspace
