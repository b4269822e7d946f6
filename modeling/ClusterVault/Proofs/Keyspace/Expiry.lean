import ClusterVault.Proofs.Keyspace.Consistent
import Mathlib.Data.List.Nodup
import Mathlib.Data.List.Perm.Basic

/-!
# The order in which leases end

Leases that end together may be dropped in any order, and leases that have ended at different
instants may be dropped together at the later one. This module shows both, down to the whole
keyspace that is left, and with them that it makes no difference when a keyspace looks at the clock.

## Main definitions

- `Keyspace.endAt`: ends the leases that end at one instant
- `Keyspace.AllBeyond`: no lease has ended by an instant
- `Keyspace.EndsAt`: when a lease ends, whether or not it is still there after that
-/

namespace ClusterVault.Keyspace

/-- The leases that end at an instant. -/
def dueAt (ks : Keyspace) (instant : Instant) : List LeaseId :=
  (ks.leases.filter fun _ l => l.deadline = instant).keys

/-- Ends the leases that end at an instant. -/
def endAt (ks : Keyspace) (instant : Instant) : Keyspace :=
  (ks.dueAt instant).foldl dropLease ks

/-- All leases end after an instant. -/
def AllBeyond (ks : Keyspace) (now : Instant) : Prop :=
  ∀ id d, ks.deadline? id = some d → now < d

variable {ks ks' : Keyspace} {id id' : LeaseId} {ids ids' : List LeaseId} {now later : Instant}

/-- A keyspace is known by its revision, its next lease, and what it holds under keys and leases. -/
theorem eq_of_getElem?_eq (hrevision : ks.revision = ks'.revision)
    (hrecords : ∀ key : Bytes, ks.records[key]? = ks'.records[key]?)
    (hleases : ∀ id : LeaseId, ks.leases[id]? = ks'.leases[id]?)
    (hnext : ks.nextLease = ks'.nextLease) :
    ks = ks' := by
  obtain ⟨revision, records, leases, next⟩ := ks
  obtain ⟨revision', records', leases', next'⟩ := ks'
  have hrecords' : records = records' := Std.ExtTreeMap.ext_getElem? hrecords
  have hleases' : leases = leases' := Std.ExtTreeMap.ext_getElem? hleases
  cases hrevision
  cases hrecords'
  cases hleases'
  cases hnext
  rfl

/-! ## Any order -/

theorem leases_dropLease (ks : Keyspace) (id id' : LeaseId) :
    (ks.dropLease id).leases[id']? = if id = id' then none else ks.leases[id']? := by
  cases hl : ks.leases[id]? with
  | none =>
    rw [dropLease_of_eq_none hl]
    by_cases heq : id = id'
    · rw [if_pos heq, ← heq, hl]
    · rw [if_neg heq]
  | some l =>
    rw [dropLease_of_eq_some hl, Std.ExtTreeMap.getElem?_erase]
    simp only [Std.LawfulEqOrd.compare_eq_iff_eq]

/-- Dropping a lease does not touch the keys of another, so two leases may be dropped in either
    order. -/
theorem dropLease_comm (ks : Keyspace) (id id' : LeaseId) :
    (ks.dropLease id).dropLease id' = (ks.dropLease id').dropLease id := by
  by_cases heq : id = id'
  · rw [heq]
  have hkeys : (ks.dropLease id).keysOf id' = ks.keysOf id' := by rw [keysOf_dropLease, if_neg heq]
  have hkeys' : (ks.dropLease id').keysOf id = ks.keysOf id := by
    rw [keysOf_dropLease, if_neg (Ne.symm heq)]
  refine eq_of_getElem?_eq ?_ ?_ ?_ ?_
  · -- each lease with keys counts once, whichever goes first
    rw [revision_dropLease, revision_dropLease, revision_dropLease, revision_dropLease, hkeys,
      hkeys']
    split <;> split <;> rfl
  · intro key
    rw [getElem?_dropLease, getElem?_dropLease, getElem?_dropLease, getElem?_dropLease, hkeys,
      hkeys']
    split <;> split <;> rfl
  · intro other
    rw [leases_dropLease, leases_dropLease, leases_dropLease, leases_dropLease]
    split <;> split <;> rfl
  · simp only [nextLease_dropLease]

instance : RightCommutative dropLease := ⟨dropLease_comm⟩

/-- Leases are dropped with the same outcome in whatever order they are listed. -/
theorem foldl_dropLease_of_mem_iff (hids : ids.Nodup) (hids' : ids'.Nodup)
    (hmem : ∀ id, id ∈ ids ↔ id ∈ ids') : ids.foldl dropLease ks = ids'.foldl dropLease ks :=
  ((List.perm_ext_iff_of_nodup hids hids').2 hmem).foldl_eq ks

/-! ## Expiry at one instant after the other -/

theorem nodup_expired (ks : Keyspace) (now : Instant) : (ks.expired now).Nodup :=
  Std.ExtTreeMap.nodup_keys

theorem nodup_dueAt (ks : Keyspace) (instant : Instant) : (ks.dueAt instant).Nodup :=
  Std.ExtTreeMap.nodup_keys

theorem mem_dueAt {instant : Instant} : id ∈ ks.dueAt instant ↔ ks.deadline? id = some instant := by
  rw [dueAt, deadline?, Std.ExtTreeMap.mem_keys, Std.ExtTreeMap.mem_iff_isSome_getElem?,
    Std.ExtTreeMap.getElem?_filter']
  cases ks.leases[id]? with
  | none => simp
  | some l => simp [Option.filter]

theorem allBeyond_expire (ks : Keyspace) (now : Instant) : (ks.expire now).AllBeyond now := by
  intro id d hd
  rw [deadline?_expire, Option.filter_eq_some_iff] at hd
  simpa using hd.2

/-- Looking at the clock does nothing while no lease has ended. -/
theorem expire_of_allBeyond (h : ks.AllBeyond now) : ks.expire now = ks := by
  have hnone : ks.expired now = [] := by
    rw [List.eq_nil_iff_forall_not_mem]
    intro id hid
    obtain ⟨d, hd, hle⟩ := mem_expired.1 hid
    exact absurd (h id d hd) (Nat.not_lt.2 hle)
  rw [expire, hnone]
  rfl

/-- What has ended by an instant and what ends after it up to a later one may be dropped in two
    passes or in one. -/
theorem expire_expire (ks : Keyspace) (hle : now ≤ later) :
    (ks.expire now).expire later = ks.expire later := by
  have hmem (id : LeaseId) : id ∈ (ks.expire now).expired later ↔
      ∃ d, ks.deadline? id = some d ∧ now < d ∧ d ≤ later := by
    rw [mem_expired, deadline?_expire]
    simp [Option.filter_eq_some_iff, and_assoc]
  show ((ks.expire now).expired later).foldl dropLease ((ks.expired now).foldl dropLease ks) = _
  rw [← List.foldl_append]
  refine foldl_dropLease_of_mem_iff ?_ (ks.nodup_expired later) ?_
  · refine (ks.nodup_expired now).append ((ks.expire now).nodup_expired later) ?_
    intro id hid hid'
    obtain ⟨d, hd, hended⟩ := mem_expired.1 hid
    obtain ⟨d', hd', hbeyond, -⟩ := (hmem id).1 hid'
    rw [hd] at hd'
    cases hd'
    exact absurd hbeyond (Nat.not_lt.2 hended)
  · intro id
    rw [List.mem_append, hmem, mem_expired, mem_expired]
    constructor
    · rintro (⟨d, hd, hended⟩ | ⟨d, hd, -, hended⟩)
      · exact ⟨d, hd, Nat.le_trans hended hle⟩
      · exact ⟨d, hd, hended⟩
    · rintro ⟨d, hd, hended⟩
      rcases Nat.lt_or_ge now d with hbeyond | hnow
      · exact .inr ⟨d, hd, hbeyond, hended⟩
      · exact .inl ⟨d, hd, hnow⟩

/-- Once the leases have ended that end by an instant, those that end by the next one end just
    then. -/
theorem endAt_succ_expire (ks : Keyspace) (now : Instant) :
    (ks.expire now).endAt (now + 1) = ks.expire (now + 1) := by
  rw [← ks.expire_expire (Nat.le_succ now)]
  refine foldl_dropLease_of_mem_iff (nodup_dueAt _ _) (nodup_expired _ _) ?_
  intro id
  rw [mem_dueAt, mem_expired]
  constructor
  · intro hd
    exact ⟨now + 1, hd, Nat.le_refl _⟩
  · rintro ⟨d, hd, hle⟩
    have hbeyond := ks.allBeyond_expire now id d hd
    rw [hd, Nat.le_antisymm hle hbeyond]

/-! ## When a lease ends -/

/-- From now on the lease looks like one that ends at the deadline. -/
def EndsAt (ks : Keyspace) (now : Instant) (lease : LeaseId) (deadline : Instant) : Prop :=
  (ks.deadline? lease).filter (now < ·) = (some deadline).filter (now < ·)

variable {lease : LeaseId} {deadline : Instant}

theorem endsAt_of_deadline? (h : ks.deadline? lease = some deadline) (now : Instant) :
    ks.EndsAt now lease deadline := by
  rw [EndsAt, h]

theorem EndsAt.mono (h : ks.EndsAt now lease deadline) (hle : now ≤ later) :
    ks.EndsAt later lease deadline := by
  have hnow : (fun d : Instant => decide (now < d) && decide (later < d)) = fun d => later < d := by
    funext d
    rw [Bool.eq_iff_iff, Bool.and_eq_true, decide_eq_true_iff, decide_eq_true_iff]
    exact ⟨And.right, fun hlt => ⟨Nat.lt_of_le_of_lt hle hlt, hlt⟩⟩
  rw [EndsAt] at h ⊢
  rw [← hnow, ← Option.filter_filter, ← Option.filter_filter, h]

/-- After a look at the clock the lease is there exactly if its deadline has not passed. -/
theorem EndsAt.deadline?_expire (h : ks.EndsAt now lease deadline) (hle : now ≤ later) :
    (ks.expire later).deadline? lease = (some deadline).filter (later < ·) := by
  rw [Keyspace.deadline?_expire]
  exact h.mono hle

theorem EndsAt.expire (h : ks.EndsAt now lease deadline) (hle : now ≤ later) :
    (ks.expire later).EndsAt later lease deadline := by
  rw [EndsAt, h.deadline?_expire hle, Option.filter_filter]
  simp only [Bool.and_self]

theorem EndsAt.of_deadline?_eq (h : ks.EndsAt now lease deadline)
    (hsame : ks'.deadline? lease = ks.deadline? lease) : ks'.EndsAt now lease deadline := by
  rw [EndsAt, hsame]
  exact h

end ClusterVault.Keyspace
