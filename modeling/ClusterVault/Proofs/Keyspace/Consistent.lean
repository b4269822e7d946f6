import ClusterVault.Proofs.Keyspace.View
import Mathlib.Data.Int.Order.Basic
import Mathlib.Logic.Basic

/-!
# Consistent keyspaces

A keyspace keeps the tie between keys and leases twice: every record names its lease, and every
lease has the set of its keys. This module states the invariant under which the two agree and the
history of every record is in order, and shows that every operation on a keyspace preserves it.

## Main definitions

- `Record.Fits`: the history of a record is in order
- `Keyspace.Consistent`: the invariant

## Design notes

A write may name a lease only if there is such a lease. A transaction checks that before it runs
its operations, and no operation ends a lease, so the check stays true to the last of them.
-/

namespace ClusterVault

/-- The record can be what is stored under a key at a revision. -/
structure Record.Fits (r : Record) (key : Bytes) (revision : Int) : Prop where
  key_eq : r.key = key
  one_le_version : 1 ≤ r.version
  one_lt_created : 1 < r.created
  created_le_modified : r.created ≤ r.modified
  modified_le : r.modified ≤ revision

theorem Record.Fits.mono {r : Record} {key : Bytes} {revision revision' : Int}
    (h : r.Fits key revision) (hle : revision ≤ revision') : r.Fits key revision' :=
  { h with modified_le := le_trans h.modified_le hle }

/-- Whether an operation is a write of a value. -/
def Operation.isPut : Operation → Bool
  | .put .. => true
  | _ => false

namespace Keyspace

/-- Records are in order, and records and leases agree about which key is attached where. -/
structure Consistent (ks : Keyspace) : Prop where
  fits : ∀ (k : Bytes) (r : Record), ks.records[k]? = some r → r.Fits k ks.revision
  mem_keysOf_iff : ∀ id k, k ∈ ks.keysOf id ↔ ks.leaseOf k = some id
  lease_lt_next : ∀ id d, ks.deadline? id = some d → 1 ≤ id ∧ id < ks.nextLease
  one_le_revision : 1 ≤ ks.revision
  one_le_nextLease : 1 ≤ ks.nextLease

variable {ks : Keyspace} {id : LeaseId} {key k value : Bytes} {lease : Option LeaseId}
  {ops : List Operation}

/-- A keyspace in which nothing has happened yet. -/
theorem consistent_empty : Consistent {} where
  fits k r h := by simp at h
  mem_keysOf_iff id k := by simp [keysOf, leaseOf]
  lease_lt_next id d h := by simp [deadline?] at h
  one_le_revision := by decide
  one_le_nextLease := by decide

/-- The leases that operations attach their keys to all exist. -/
def LeasesExist (ks : Keyspace) (ops : List Operation) : Prop :=
  ∀ op ∈ ops, ∀ id, op.lease? = some id → (ks.deadline? id).isSome

theorem missingLease?_eq_none : ks.missingLease? ops = none ↔ ks.LeasesExist ops := by
  have hexists (id : LeaseId) : ¬(!ks.leases.contains id) = true ↔ (ks.deadline? id).isSome := by
    rw [contains_leases, Bool.not_eq_true', Bool.not_eq_false]
  simp only [missingLease?, List.find?_eq_none, List.mem_filterMap, LeasesExist]
  constructor
  · intro h op hop id hid
    exact (hexists id).1 (h id ⟨op, hop, hid⟩)
  · rintro h id ⟨op, hop, hid⟩
    exact (hexists id).2 (h op hop id hid)

/-- A write always counts as a change. -/
theorem any_isChangedBy_of_isPut {op : Operation} (hop : op ∈ ops) (hput : op.isPut) :
    ops.any ks.isChangedBy = true := by
  refine List.any_eq_true.2 ⟨op, hop, ?_⟩
  cases op with
  | put k v l => rfl
  | get | delete => cases hput

namespace Consistent

theorem key_eq (h : ks.Consistent) {r : Record} (hr : ks.records[k]? = some r) : r.key = k :=
  (h.fits k r hr).key_eq

/-- A key is attached to a lease only while the lease exists. -/
theorem deadline?_of_leaseOf (h : ks.Consistent) (hk : ks.leaseOf k = some id) :
    ∃ d, ks.deadline? id = some d :=
  deadline?_of_mem_keysOf ((h.mem_keysOf_iff id k).2 hk)

theorem deadline?_nextLease (h : ks.Consistent) : ks.deadline? ks.nextLease = none := by
  cases hd : ks.deadline? ks.nextLease with
  | none => rfl
  | some d => exact absurd (h.lease_lt_next _ d hd).2 (lt_irrefl _)

/-! ## Conditions -/

theorem satisfies_absent (h : ks.Consistent) (key : Bytes) :
    ks.satisfies (.absent key) ↔ ks.records[key]? = none := by
  simp only [satisfies, Condition.absent, Condition.holds, Relation.holds]
  cases hr : ks.records[key]? with
  | none => simp [History.ofRecord?]
  | some r =>
    -- an absent key reads as created at 0, which no record is
    have hcreated := (h.fits key r hr).one_lt_created
    have hne : r.created ≠ 0 := by omega
    simp [History.ofRecord?, hne]

theorem satisfies_present (h : ks.Consistent) (key : Bytes) :
    ks.satisfies (.present key) ↔ ∃ r, ks.records[key]? = some r := by
  simp only [satisfies, Condition.present, Condition.holds, Relation.holds]
  cases hr : ks.records[key]? with
  | none => simp [History.ofRecord?]
  | some r =>
    have hcreated := (h.fits key r hr).one_lt_created
    have hpos : 0 < r.created := by omega
    simp [History.ofRecord?, hpos]

/-! ## Operations -/

theorem fits_written (h : ks.Consistent) (hrev : 1 < ks.revision) :
    (ks.written key value lease ks.records[key]?).Fits key ks.revision := by
  cases hold : ks.records[key]? with
  | none => exact ⟨rfl, le_refl 1, hrev, le_refl _, le_refl _⟩
  | some old =>
    have hf := h.fits key old hold
    have hcreated := le_trans hf.created_le_modified hf.modified_le
    have hversion : 1 ≤ old.version + 1 := by have := hf.one_le_version; omega
    exact ⟨hf.key_eq, hversion, hf.one_lt_created, hcreated, le_refl _⟩

theorem leaseOf_put : (ks.put key value lease).leaseOf k =
    if key = k then lease else ks.leaseOf k := by
  rw [leaseOf, leaseOf, getElem?_put]
  by_cases heq : key = k
  · simp only [heq, if_true, Option.bind_some]
    cases ks.records[k]? <;> rfl
  · simp [heq]

theorem leaseOf_delete : (ks.delete key).leaseOf k = if key = k then none else ks.leaseOf k := by
  rw [leaseOf, leaseOf, getElem?_delete]
  by_cases heq : key = k <;> simp [heq]

theorem put (h : ks.Consistent) (hrev : 1 < ks.revision)
    (hlease : ∀ l, lease = some l → (ks.deadline? l).isSome) :
    (ks.put key value lease).Consistent where
  fits k r hr := by
    rw [getElem?_put] at hr
    rw [revision_put]
    by_cases heq : key = k
    · subst heq
      rw [if_pos rfl] at hr
      exact Option.some.inj hr ▸ h.fits_written hrev
    · rw [if_neg heq] at hr
      exact h.fits k r hr
  mem_keysOf_iff id k := by
    rw [mem_keysOf_put (fun r => h.key_eq) hlease, leaseOf_put, h.mem_keysOf_iff]
    by_cases heq : key = k
    · subst heq
      simp
    · simp [heq]
  lease_lt_next id d hd := by
    rw [deadline?_put] at hd
    rw [nextLease_put]
    exact h.lease_lt_next id d hd
  one_le_revision := by rw [revision_put]; exact h.one_le_revision
  one_le_nextLease := by rw [nextLease_put]; exact h.one_le_nextLease

theorem delete (h : ks.Consistent) : (ks.delete key).Consistent where
  fits k r hr := by
    rw [getElem?_delete] at hr
    rw [revision_delete]
    by_cases heq : key = k
    · simp [heq] at hr
    · rw [if_neg heq] at hr
      exact h.fits k r hr
  mem_keysOf_iff id k := by
    rw [mem_keysOf_delete (fun r => h.key_eq), leaseOf_delete, h.mem_keysOf_iff]
    by_cases heq : key = k
    · subst heq
      simp
    · simp [heq]
  lease_lt_next id d hd := by
    rw [deadline?_delete] at hd
    rw [nextLease_delete]
    exact h.lease_lt_next id d hd
  one_le_revision := by rw [revision_delete]; exact h.one_le_revision
  one_le_nextLease := by rw [nextLease_delete]; exact h.one_le_nextLease

/-- Only a write asks for more: a revision above the first one, and a lease that exists. -/
theorem apply (h : ks.Consistent) {op : Operation}
    (hput : op.isPut → 1 < ks.revision)
    (hlease : ∀ l, op.lease? = some l → (ks.deadline? l).isSome) : (ks.apply op).2.Consistent := by
  cases op with
  | put k v l => exact h.put (hput rfl) hlease
  | get k => exact h
  | delete k =>
    simp only [Keyspace.apply]
    split
    · exact h.delete
    · exact h

theorem applyAll (h : ks.Consistent)
    (hput : ∀ op ∈ ops, op.isPut → 1 < ks.revision)
    (hlease : ks.LeasesExist ops) : (ks.applyAll ops).2.Consistent := by
  -- no operation changes the revision or ends a lease, so what is asked of later ones stays true
  induction ops generalizing ks with
  | nil => exact h
  | cons op ops ih =>
    have happly : (ks.apply op).2.Consistent :=
      h.apply (hput op List.mem_cons_self) (hlease op List.mem_cons_self)
    apply ih happly
    · intro op' hop'
      rw [revision_apply]
      exact hput op' (List.mem_cons_of_mem _ hop')
    · intro op' hop' id hid
      rw [deadline?_apply]
      exact hlease op' (List.mem_cons_of_mem _ hop') id hid

/-! ## Transactions -/

theorem atRevisionOf (h : ks.Consistent) : (ks.atRevisionOf ops).Consistent := by
  have hle : ks.revision ≤ (ks.atRevisionOf ops).revision := by
    rw [revision_atRevisionOf]
    split <;> omega
  refine ⟨?_, ?_, ?_, le_trans h.one_le_revision hle, ?_⟩
  · intro k r hr
    rw [records_atRevisionOf] at hr
    exact (h.fits k r hr).mono hle
  · intro id k
    simpa [leaseOf] using h.mem_keysOf_iff id k
  · intro id d hd
    rw [deadline?_atRevisionOf] at hd
    rw [nextLease_atRevisionOf]
    exact h.lease_lt_next id d hd
  · rw [nextLease_atRevisionOf]
    exact h.one_le_nextLease

theorem commit (h : ks.Consistent) (hlease : ks.LeasesExist ops) :
    (ks.commit ops).2.Consistent := by
  rw [commit_eq]
  apply h.atRevisionOf.applyAll
  · intro op hop hput
    rw [revision_atRevisionOf, if_pos (any_isChangedBy_of_isPut hop hput)]
    have := h.one_le_revision
    omega
  · intro op hop id hid
    rw [deadline?_atRevisionOf]
    exact hlease op hop id hid

/-! ## Leases -/

theorem grantLease (h : ks.Consistent) (d : Instant) : (ks.grantLease d).Consistent where
  fits := h.fits
  mem_keysOf_iff id k := by
    rw [keysOf_grantLease, show (ks.grantLease d).leaseOf k = ks.leaseOf k from rfl,
      ← h.mem_keysOf_iff]
    split
    · next heq =>
      -- the new lease did not exist, so no record names it
      subst heq
      rw [keysOf_of_deadline?_eq_none h.deadline?_nextLease]
    · rfl
  lease_lt_next id d' hd := by
    rw [deadline?_grantLease] at hd
    show 1 ≤ id ∧ id < ks.nextLease + 1
    by_cases heq : ks.nextLease = id
    · exact heq ▸ ⟨h.one_le_nextLease, Int.lt_succ _⟩
    · rw [if_neg heq] at hd
      obtain ⟨hpos, hlt⟩ := h.lease_lt_next id d' hd
      exact ⟨hpos, lt_trans hlt (Int.lt_succ _)⟩
  one_le_revision := h.one_le_revision
  one_le_nextLease := by
    exact le_trans h.one_le_nextLease (le_of_lt (Int.lt_succ _))

/-- Dropping a lease removes the records that are attached to it and keeps all others. -/
theorem getElem?_dropLease (h : ks.Consistent) (id : LeaseId) (k : Bytes) :
    (ks.dropLease id).records[k]? = ks.records[k]?.filter (·.lease ≠ some id) := by
  rw [Keyspace.getElem?_dropLease, if_congr (h.mem_keysOf_iff id k) rfl rfl, leaseOf]
  cases ks.records[k]? with
  | none => simp
  | some r => by_cases hl : r.lease = some id <;> simp [hl, Option.filter]

theorem leaseOf_dropLease (h : ks.Consistent) :
    (ks.dropLease id).leaseOf k = (ks.leaseOf k).filter (· ≠ id) := by
  rw [leaseOf, leaseOf, h.getElem?_dropLease]
  cases ks.records[k]? with
  | none => rfl
  | some r =>
    cases hl : r.lease with
    | none => simp [hl, Option.filter]
    | some l => by_cases heq : l = id <;> simp [hl, heq, Option.filter]

theorem dropLease (h : ks.Consistent) (id : LeaseId) : (ks.dropLease id).Consistent := by
  have hle : ks.revision ≤ (ks.dropLease id).revision := by
    rw [revision_dropLease]
    split <;> omega
  refine ⟨?_, ?_, ?_, le_trans h.one_le_revision hle, ?_⟩
  · intro k r hr
    rw [h.getElem?_dropLease, Option.filter_eq_some_iff] at hr
    exact (h.fits k r hr.1).mono hle
  · intro id' k
    rw [keysOf_dropLease, h.leaseOf_dropLease]
    by_cases heq : id = id'
    · subst heq
      simp [Option.filter_eq_some_iff]
    · simp [heq, h.mem_keysOf_iff, Option.filter_eq_some_iff, Ne.symm heq]
  · intro id' d hd
    rw [deadline?_dropLease] at hd
    rw [nextLease_dropLease]
    by_cases heq : id = id'
    · simp [heq] at hd
    · rw [if_neg heq] at hd
      exact h.lease_lt_next id' d hd
  · rw [nextLease_dropLease]
    exact h.one_le_nextLease

theorem foldl_dropLease (h : ks.Consistent) (ids : List LeaseId) :
    (ids.foldl Keyspace.dropLease ks).Consistent := by
  induction ids generalizing ks with
  | nil => exact h
  | cons first ids ih => exact ih (h.dropLease first)

theorem expire (h : ks.Consistent) (now : Instant) : (ks.expire now).Consistent :=
  h.foldl_dropLease _

theorem getElem?_foldl_dropLease (h : ks.Consistent) (ids : List LeaseId) (k : Bytes) :
    (ids.foldl Keyspace.dropLease ks).records[k]? =
      ks.records[k]?.filter (·.lease.all (· ∉ ids)) := by
  -- dropping a lease leaves the keyspace consistent, so the next one drops its own records only
  induction ids generalizing ks with
  | nil => cases hr : ks.records[k]? <;> simp [hr, Option.filter]
  | cons first ids ih =>
    rw [List.foldl_cons, ih (h.dropLease first), h.getElem?_dropLease, Option.filter_filter]
    congr 1
    funext r
    cases r.lease with
    | none => simp
    | some l => by_cases heq : l = first <;> simp [heq]

/-- Expiry removes the records whose lease has ended and keeps all others. -/
theorem getElem?_expire (h : ks.Consistent) (now : Instant) (k : Bytes) :
    (ks.expire now).records[k]? = ks.records[k]?.filter (ks.lastsBeyond now ·.lease) := by
  rw [Keyspace.expire, h.getElem?_foldl_dropLease]
  congr 1
  funext r
  rw [lastsBeyond]
  cases r.lease with
  | none => rfl
  | some l => cases hd : ks.deadline? l <;> simp [mem_expired, hd]

end Consistent

end Keyspace

end ClusterVault
