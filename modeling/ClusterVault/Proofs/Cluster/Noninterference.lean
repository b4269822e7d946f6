import ClusterVault.Proofs.Access.Checks
import ClusterVault.Proofs.Cluster.Run
import Mathlib.Control.Monad.Basic

/-!
# What transactions reveal

The answers to the transactions of a user depend on nothing but the records that the user may read,
which of the keys that the user may write are there, the revision and which leases exist. This module
compares two clusters that agree on all that and shows that they answer alike, and still agree after
every answer.

## Main definitions

- `Keyspace.Alike`: two keyspaces agree on what may be accessed
- `Cluster.Alike`: two clusters agree on what a user may access
- `Cluster.transactAll`: the answers to transactions one after the other

## Design notes

A key that may be written but not read is compared by its presence alone. A write of it answers
nothing, and a deletion only whether there was something.
-/

namespace ClusterVault

namespace Keyspace

open Cluster (accessFor)

/-- The keyspaces agree on the records that may be read, on the presence of those that may be
    written, on the revision and on which leases exist. -/
structure Alike (may : Access → Bytes → Prop) (ks ks' : Keyspace) : Prop where
  revision_eq : ks.revision = ks'.revision
  leases_eq : ∀ id, (ks.deadline? id).isSome = (ks'.deadline? id).isSome
  records_eq : ∀ key : Bytes, may .read key → ks.records[key]? = ks'.records[key]?
  presence_eq : ∀ key : Bytes, may .write key → ks.records.contains key = ks'.records.contains key

variable {may : Access → Bytes → Prop} {ks ks' : Keyspace} {op : Operation} {ops : List Operation}
  {key value : Bytes} {lease : Option LeaseId}

theorem contains_put (k : Bytes) :
    (ks.put key value lease).records.contains k = (decide (key = k) || ks.records.contains k) := by
  rw [Std.ExtTreeMap.contains_eq_isSome_getElem?, Std.ExtTreeMap.contains_eq_isSome_getElem?,
    getElem?_put]
  by_cases heq : key = k <;> simp [heq]

theorem contains_delete (k : Bytes) :
    (ks.delete key).records.contains k = (!decide (key = k) && ks.records.contains k) := by
  rw [Std.ExtTreeMap.contains_eq_isSome_getElem?, Std.ExtTreeMap.contains_eq_isSome_getElem?,
    getElem?_delete]
  by_cases heq : key = k <;> simp [heq]

/-- What a write leaves depends on the revision and on what was there. -/
theorem written_congr (hrevision : ks.revision = ks'.revision) (old : Option Record) :
    ks.written key value lease old = ks'.written key value lease old := by
  cases old <;> simp only [written, hrevision]

namespace Alike

theorem satisfies (h : Alike may ks ks') {condition : Condition} (hread : may .read condition.key) :
    ks.satisfies condition = ks'.satisfies condition := by
  rw [Keyspace.satisfies, Keyspace.satisfies, h.records_eq _ hread]

theorem isChangedBy (h : Alike may ks ks') (hop : may (accessFor op) op.key) :
    ks.isChangedBy op = ks'.isChangedBy op := by
  cases op with
  | put | get => rfl
  | delete key => exact h.presence_eq key hop

theorem missingLease? (h : Alike may ks ks') (ops : List Operation) :
    ks.missingLease? ops = ks'.missingLease? ops := by
  simp only [Keyspace.missingLease?, contains_leases, h.leases_eq]

theorem put (h : Alike may ks ks') (key value : Bytes) (lease : Option LeaseId) :
    Alike may (ks.put key value lease) (ks'.put key value lease) where
  revision_eq := by rw [revision_put, revision_put, h.revision_eq]
  leases_eq id := by rw [deadline?_put, deadline?_put, h.leases_eq]
  records_eq k hread := by
    rw [getElem?_put, getElem?_put, h.records_eq k hread]
    split
    · next heq =>
      -- what is written under a key that may be read takes up what could be read there
      rw [heq, h.records_eq k hread, written_congr h.revision_eq]
    · rfl
  presence_eq k hwrite := by rw [contains_put, contains_put, h.presence_eq k hwrite]

theorem delete (h : Alike may ks ks') (key : Bytes) :
    Alike may (ks.delete key) (ks'.delete key) where
  revision_eq := by rw [revision_delete, revision_delete, h.revision_eq]
  leases_eq id := by rw [deadline?_delete, deadline?_delete, h.leases_eq]
  records_eq k hread := by rw [getElem?_delete, getElem?_delete, h.records_eq k hread]
  presence_eq k hwrite := by rw [contains_delete, contains_delete, h.presence_eq k hwrite]

/-- An operation that is allowed has the same outcome, and leaves the same of what may be known. -/
theorem apply (h : Alike may ks ks') (hop : may (accessFor op) op.key) :
    (ks.apply op).1 = (ks'.apply op).1 ∧ Alike may (ks.apply op).2 (ks'.apply op).2 := by
  cases op with
  | put key value lease => exact ⟨rfl, h.put key value lease⟩
  | get key =>
    have hrecord : ks.records[key]? = ks'.records[key]? := h.records_eq key hop
    exact ⟨congrArg (fun r : Option Record => Outcome.got r.toList) hrecord, h⟩
  | delete key =>
    have hpresent : ks.records.contains key = ks'.records.contains key := h.presence_eq key hop
    rw [Keyspace.apply, Keyspace.apply, hpresent]
    split
    · exact ⟨rfl, h.delete key⟩
    · exact ⟨rfl, h⟩

theorem applyAll (h : Alike may ks ks') (hops : ∀ op ∈ ops, may (accessFor op) op.key) :
    (ks.applyAll ops).1 = (ks'.applyAll ops).1 ∧
      Alike may (ks.applyAll ops).2 (ks'.applyAll ops).2 := by
  induction ops generalizing ks ks' with
  | nil => exact ⟨rfl, h⟩
  | cons op ops ih =>
    obtain ⟨houtcome, hafter⟩ := h.apply (hops op List.mem_cons_self)
    have hrest : ∀ op' ∈ ops, may (accessFor op') op'.key := by
      intro op' hop'
      exact hops op' (List.mem_cons_of_mem _ hop')
    obtain ⟨houtcomes, hlast⟩ := ih hafter hrest
    exact ⟨congrArg₂ List.cons houtcome houtcomes, hlast⟩

/-- The revision moves in both or in neither, since the test for a change looks at keys only that may
    be written. -/
theorem commit (h : Alike may ks ks') (hops : ∀ op ∈ ops, may (accessFor op) op.key) :
    (ks.commit ops).1 = (ks'.commit ops).1 ∧ Alike may (ks.commit ops).2 (ks'.commit ops).2 := by
  have hchanged : ops.any ks.isChangedBy = ops.any ks'.isChangedBy := by
    rw [Bool.eq_iff_iff, List.any_eq_true, List.any_eq_true]
    refine exists_congr fun op => and_congr_right fun hop => ?_
    rw [h.isChangedBy (hops op hop)]
  have hstart : Alike may (ks.atRevisionOf ops) (ks'.atRevisionOf ops) := by
    refine ⟨?_, ?_, ?_, ?_⟩
    · rw [revision_atRevisionOf, revision_atRevisionOf, hchanged, h.revision_eq]
    · intro id
      rw [deadline?_atRevisionOf, deadline?_atRevisionOf, h.leases_eq]
    · intro key hread
      rw [records_atRevisionOf, records_atRevisionOf, h.records_eq key hread]
    · intro key hwrite
      rw [records_atRevisionOf, records_atRevisionOf, h.presence_eq key hwrite]
  rw [commit_eq, commit_eq]
  exact hstart.applyAll hops

end Alike

end Keyspace

namespace Cluster

/-- The clusters agree on users and roles, and on all that a user may access. -/
structure Alike (user : String) (c c' : Cluster) : Prop where
  access_eq : c.access = c'.access
  keyspace : c.keyspace.Alike (fun access key => c.access.authorizeKey user access key = .ok ())
    c'.keyspace

/-- The answers to the transactions of a user, each with its limit, and what is left after them. -/
def transactAll (c : Cluster) (user : String) :
    List (Nat × Transaction) → List (Except EngineError Transaction.Result) × Cluster
  | [] => ([], c)
  | (limit, t) :: rest =>
    match c.transact user limit t with
    | .error e => (.error e :: (c.transactAll user rest).1, (c.transactAll user rest).2)
    | .ok (result, c') => (.ok result :: (c'.transactAll user rest).1, (c'.transactAll user rest).2)

variable {c c' : Cluster} {user : String} {limit : Nat} {t : Transaction}

/-- The conditions and the operations of a transaction that has passed the checks are allowed. -/
theorem authorized_demands (h : c.access.authorizeAll user (demands t) = .ok ()) :
    (∀ condition ∈ t.conditions, c.access.authorizeKey user .read condition.key = .ok ()) ∧
    ∀ op ∈ t.success ++ t.failure, c.access.authorizeKey user (accessFor op) op.key = .ok () := by
  rw [AccessControl.authorizeAll_eq_ok] at h
  refine ⟨?_, ?_⟩
  · intro condition hcondition
    exact h (.read, condition.key) (List.mem_append_left _ (List.mem_map_of_mem hcondition))
  · intro op hop
    exact h (accessFor op, op.key) (List.mem_append_right _ (List.mem_map_of_mem hop))

/-- Either both clusters refuse a transaction, for the same reason, or both accept it with the same
    result. -/
theorem Alike.transact (h : Alike user c c') (limit : Nat) (t : Transaction) :
    (∃ e, c.transact user limit t = .error e ∧ c'.transact user limit t = .error e) ∨
    ∃ result next next', c.transact user limit t = .ok (result, next) ∧
      c'.transact user limit t = .ok (result, next') ∧ Alike user next next' := by
  rw [transact_eq, transact_eq, ← h.access_eq]
  split
  · cases hchecks : c.access.authorizeAll user (demands t) with
    | error e => exact .inl ⟨e, rfl, rfl⟩
    | ok u =>
      obtain ⟨hconditions, hops⟩ := authorized_demands hchecks
      have hsucceeded : t.conditions.all c.keyspace.satisfies =
          t.conditions.all c'.keyspace.satisfies := by
        rw [Bool.eq_iff_iff, List.all_eq_true, List.all_eq_true]
        refine forall₂_congr fun condition hcondition => ?_
        rw [h.keyspace.satisfies (hconditions condition hcondition)]
      have hbranch : c.branch t = c'.branch t := by rw [branch, branch, hsucceeded]
      rw [← hbranch, ← h.keyspace.missingLease?]
      cases c.keyspace.missingLease? (c.branch t) with
      | some id => exact .inl ⟨_, rfl, rfl⟩
      | none =>
        obtain ⟨houtcomes, hafter⟩ :=
          h.keyspace.commit fun op hop => hops op (mem_of_mem_branch hop)
        have hresult : (c.accepted t).1 = (c'.accepted t).1 := by
          rw [accepted, accepted, ← hbranch, ← hsucceeded, houtcomes, hafter.revision_eq]
        refine .inr ⟨(c.accepted t).1, (c.accepted t).2, (c'.accepted t).2, rfl, ?_, h.access_eq, ?_⟩
        · rw [hresult]
        · show Keyspace.Alike _ (c.keyspace.commit (c.branch t)).2
            (c'.keyspace.commit (c'.branch t)).2
          rw [← hbranch]
          exact hafter
  · exact .inl ⟨_, rfl, rfl⟩

/-- Transactions reveal nothing but what a user may access. Two clusters that agree on that give the
    same answers to any transactions of the user, errors included, and agree after them. -/
theorem transactAll_noninterference (h : Alike user c c') (requests : List (Nat × Transaction)) :
    (c.transactAll user requests).1 = (c'.transactAll user requests).1 ∧
      Alike user (c.transactAll user requests).2 (c'.transactAll user requests).2 := by
  induction requests generalizing c c' with
  | nil => exact ⟨rfl, h⟩
  | cons request requests ih =>
    obtain ⟨limit, t⟩ := request
    rw [transactAll, transactAll]
    rcases h.transact limit t with ⟨e, he, he'⟩ | ⟨result, next, next', hnext, hnext', hafter⟩
    · obtain ⟨hanswers, hlast⟩ := ih h
      rw [he, he']
      exact ⟨congrArg (List.cons (.error e)) hanswers, hlast⟩
    · obtain ⟨hanswers, hlast⟩ := ih hafter
      rw [hnext, hnext']
      exact ⟨congrArg (List.cons (.ok result)) hanswers, hlast⟩

/-- A user who may access the keys that begin with one byte cannot tell what is stored under a key
    that begins with another, by whatever it asks. -/
theorem transactAll_noninterference_hidden_value :
    let access : AccessControl :=
      { enabled := true
        roles := {("root", []), ("eve", [.startingWith [98] .readWrite])}
        users := {("root", {"root"}), ("eve", {"eve"})} }
    let store (value : Bytes) : Cluster :=
      { members := [], access, keyspace := (({} : Keyspace).commit [.put [97] value none]).2 }
    let requests : List (Nat × Transaction) :=
      [(1, { conditions := [.absent [98]], success := [.put [98] [3] none] }),
        (1, { conditions := [.absent [97]] }), (1, { success := [.get [98]] }),
        (1, { success := [.delete [97]] })]
    (store [1]).keyspace.content? [97] ≠ (store [2]).keyspace.content? [97] ∧
      ((store [1]).transactAll "eve" requests).1 = ((store [2]).transactAll "eve" requests).1 := by
  intro access store requests
  refine ⟨by decide +kernel, ?_⟩
  have hother (key : Bytes) (hne : [97] ≠ key) :
      (store [1]).keyspace.records[key]? = (store [2]).keyspace.records[key]? := by
    have hempty (value : Bytes) : (store value).keyspace.records[key]? =
        ({} : Keyspace).records[key]? := by
      refine Keyspace.getElem?_commit_of_effectOn?_eq_none fun op hop => ?_
      rw [List.mem_singleton.1 hop]
      exact Operation.effectOn?_of_key_ne hne
    rw [hempty, hempty]
  have hdenied (right : Access) : access.authorizeKey "eve" right [97] ≠ .ok () := by
    cases right <;> decide +kernel
  have halike : Alike "eve" (store [1]) (store [2]) := by
    refine ⟨rfl, by decide +kernel, fun id => ?_, fun key hread => ?_, fun key hwrite => ?_⟩
    · simp only [store, Keyspace.commit_eq, Keyspace.deadline?_applyAll,
        Keyspace.deadline?_atRevisionOf]
    · refine hother key ?_
      rintro rfl
      exact hdenied .read hread
    · rw [Std.ExtTreeMap.contains_eq_isSome_getElem?, Std.ExtTreeMap.contains_eq_isSome_getElem?]
      refine congrArg Option.isSome (hother key ?_)
      rintro rfl
      exact hdenied .write hwrite
  exact (transactAll_noninterference halike requests).1

end Cluster

end ClusterVault
