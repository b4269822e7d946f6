import ClusterVault.Proofs.Keyspace.Run
import Mathlib.Logic.Function.Basic

/-!
# Transactions on a plain table

The meaning of a list of operations, given on a plain function from keys to records: no leases, no
revision but the one that new records carry, and one operation after the other. This module shows
that a keyspace runs its operations just so, and that the test by which it raises the revision before
it runs them agrees with what they turn out to change.

## Main definitions

- `Table`: records by key
- `Table.apply`, `Table.applyAll`: the meaning of operations
- `Keyspace.table`: the table of a keyspace
- `Outcome.isChange`: whether an outcome tells of a change
-/

namespace ClusterVault

/-- Records by key. -/
abbrev Table := Bytes → Option Record

namespace Table

/-- The record that a write leaves: a new incarnation of an absent key, or the next version of a
    present one. -/
def written (revision : Int) (key value : Bytes) (lease : Option LeaseId) :
    Option Record → Record
  | none => { key, value, created := revision, modified := revision, version := 1, lease }
  | some old =>
    { key, value, created := old.created, modified := revision, version := old.version + 1, lease }

/-- What an operation answers and leaves, where a write carries the given revision. -/
def apply (m : Table) (revision : Int) : Operation → Outcome × Table
  | .put key value lease =>
    (.put, Function.update m key (some (written revision key value lease (m key))))
  | .get key => (.got (m key).toList, m)
  | .delete key =>
    match m key with
    | none => (.deleted 0, m)
    | some _ => (.deleted 1, Function.update m key none)

/-- What operations answer and leave, each on the table that the ones before it left. -/
def applyAll (m : Table) (revision : Int) : List Operation → List Outcome × Table
  | [] => ([], m)
  | op :: ops =>
    let (outcome, m) := m.apply revision op
    let (outcomes, m) := applyAll m revision ops
    (outcome :: outcomes, m)

/-- The outcome of an operation is its own on the table that the operations before it left. -/
theorem getElem?_applyAll (m : Table) (revision : Int) (ops : List Operation) (i : Nat) :
    (m.applyAll revision ops).1[i]? =
      ops[i]?.map fun op => ((m.applyAll revision (ops.take i)).2.apply revision op).1 := by
  induction ops generalizing m i with
  | nil => rfl
  | cons op ops ih =>
    cases i with
    | zero => rfl
    | succ i => exact ih (m.apply revision op).2 i

end Table

/-- Whether an outcome tells of a change to a record. -/
def Outcome.isChange : Outcome → Bool
  | put => true
  | got _ => false
  | deleted count => count = 1

namespace Keyspace

/-- The records of a keyspace as a table. -/
def table (ks : Keyspace) : Table := fun key => ks.records[key]?

variable {ks : Keyspace} {ops : List Operation} {revision : Int}

/-- Every record knows the key it is stored under. -/
def KeysMatch (ks : Keyspace) : Prop :=
  ∀ (k : Bytes) (r : Record), ks.records[k]? = some r → r.key = k

theorem Consistent.keysMatch (h : ks.Consistent) : ks.KeysMatch := fun _ _ => h.key_eq

theorem written_eq (h : ks.KeysMatch) (key value : Bytes) (lease : Option LeaseId) :
    ks.written key value lease ks.records[key]? =
      Table.written ks.revision key value lease (ks.table key) := by
  rw [table]
  cases hold : ks.records[key]? with
  | none => rfl
  | some old =>
    have hkey := h key old hold
    simp only [written, Table.written, hkey]

theorem KeysMatch.apply (h : ks.KeysMatch) (op : Operation) : (ks.apply op).2.KeysMatch := by
  intro k r hr
  rcases getElem?_apply_cases hr with hsame | ⟨value, lease, -, rfl⟩
  · exact h k r hsame
  · rw [written_eq h]
    cases ks.table k <;> rfl

theorem table_put (h : ks.KeysMatch) (key value : Bytes) (lease : Option LeaseId) :
    (ks.put key value lease).table = Function.update ks.table key
      (some (Table.written ks.revision key value lease (ks.table key))) := by
  funext k
  rw [table, getElem?_put, written_eq h, Function.update_apply]
  simp only [eq_comm (a := key)]
  rfl

theorem table_delete (ks : Keyspace) (key : Bytes) :
    (ks.delete key).table = Function.update ks.table key none := by
  funext k
  rw [table, getElem?_delete, Function.update_apply]
  simp only [eq_comm (a := key)]
  rfl

/-- One operation does to the table what it means, given that a write carries the revision of the
    keyspace. -/
theorem apply_eq_table_apply (h : ks.KeysMatch) {op : Operation}
    (hrev : op.isPut → ks.revision = revision) :
    (ks.apply op).1 = (ks.table.apply revision op).1 ∧
      (ks.apply op).2.table = (ks.table.apply revision op).2 := by
  cases op with
  | put key value lease =>
    rw [← hrev rfl]
    exact ⟨rfl, table_put h key value lease⟩
  | get key => exact ⟨rfl, rfl⟩
  | delete key =>
    have hcontains : ks.records.contains key = (ks.table key).isSome :=
      Std.ExtTreeMap.contains_eq_isSome_getElem?
    simp only [apply, Table.apply, hcontains]
    cases htable : ks.table key with
    | none => exact ⟨rfl, rfl⟩
    | some r => exact ⟨rfl, table_delete ks key⟩

/-- Operations do to the table what they mean. -/
theorem applyAll_eq_table_applyAll (h : ks.KeysMatch)
    (hrev : ∀ op ∈ ops, op.isPut → ks.revision = revision) :
    (ks.applyAll ops).1 = (ks.table.applyAll revision ops).1 ∧
      (ks.applyAll ops).2.table = (ks.table.applyAll revision ops).2 := by
  induction ops generalizing ks with
  | nil => exact ⟨rfl, rfl⟩
  | cons op ops ih =>
    obtain ⟨houtcome, htable⟩ := apply_eq_table_apply h (hrev op List.mem_cons_self)
    have hrest : ∀ op' ∈ ops, op'.isPut → (ks.apply op).2.revision = revision := by
      intro op' hop' hput
      rw [revision_apply]
      exact hrev op' (List.mem_cons_of_mem _ hop') hput
    obtain ⟨houtcomes, hafter⟩ := ih (h.apply op) hrest
    rw [htable] at houtcomes hafter
    exact ⟨congrArg₂ List.cons houtcome houtcomes, hafter⟩

/-- A transaction does to the table what its operations mean at the next revision. -/
theorem commit_eq_table_applyAll (h : ks.KeysMatch) (ops : List Operation) :
    (ks.commit ops).1 = (ks.table.applyAll (ks.revision + 1) ops).1 ∧
      (ks.commit ops).2.table = (ks.table.applyAll (ks.revision + 1) ops).2 := by
  have htable : (ks.atRevisionOf ops).table = ks.table := by
    funext k
    rw [table, table, records_atRevisionOf]
  have hkeys : (ks.atRevisionOf ops).KeysMatch := by
    intro k r hr
    rw [records_atRevisionOf] at hr
    exact h k r hr
  rw [commit_eq, ← htable]
  apply applyAll_eq_table_applyAll hkeys
  intro op hop hput
  rw [revision_atRevisionOf, if_pos (any_isChangedBy_of_isPut hop hput)]

theorem isChange_apply (op : Operation) : (ks.apply op).1.isChange = ks.isChangedBy op := by
  cases op with
  | put | get => rfl
  | delete key =>
    rw [apply, isChangedBy]
    split
    · next h => rw [h]; rfl
    · next h => rw [Bool.not_eq_true] at h; rw [h]; rfl

/-- The test for a change looks at the keyspace before the operations run, yet it finds a change if
    and only if one of the outcomes tells of one: up to the first change nothing differs. -/
theorem any_isChange_applyAll (ks : Keyspace) (ops : List Operation) :
    (ks.applyAll ops).1.any Outcome.isChange = ops.any ks.isChangedBy := by
  induction ops generalizing ks with
  | nil => rfl
  | cons op ops ih =>
    show ((ks.apply op).1 :: ((ks.apply op).2.applyAll ops).1).any _ = _
    rw [List.any_cons, List.any_cons, isChange_apply]
    -- up to the first change the keyspace is the one that the test looks at
    cases hchanged : ks.isChangedBy op with
    | true => rfl
    | false =>
      rw [apply_of_not_isChangedBy hchanged]
      exact ih ks

theorem isChangedBy_atRevisionOf (op : Operation) :
    (ks.atRevisionOf ops).isChangedBy op = ks.isChangedBy op := by
  cases op with
  | put | get => rfl
  | delete key => simp only [isChangedBy, records_atRevisionOf]

theorem any_isChange_commit (ks : Keyspace) (ops : List Operation) :
    (ks.commit ops).1.any Outcome.isChange = ops.any ks.isChangedBy := by
  rw [commit_eq, any_isChange_applyAll]
  exact congrArg ops.any (funext isChangedBy_atRevisionOf)

end Keyspace

end ClusterVault
