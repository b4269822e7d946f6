import ClusterVault.Proofs.Cluster.Run
import ClusterVault.Proofs.Keyspace.Table

/-!
# What a transaction does

A transaction that is accepted does what its conditions and operations mean on a plain table of
records: the conditions are all judged on the table as it was, the operations of the branch they
pick run one after the other, and everything that is written carries the one next revision.
-/

namespace ClusterVault.Cluster

variable {c c' : Cluster} {user : String} {limit : Nat} {t : Transaction}
  {result : Transaction.Result}

/-- The operations that a transaction with this result has run. -/
def ranOperations (t : Transaction) (result : Transaction.Result) : List Operation :=
  if result.succeeded then t.success else t.failure

/-- A transaction equals the run of its operations on the plain table of records: its verdict, its
    outcomes and the table it leaves. The revision grows by one if and only if an outcome tells of a
    change, which is what the test made before the run foresees; otherwise nothing changes. -/
theorem transact_eq_table_run (hc : c.Reachable)
    (h : c.transact user limit t = .ok (result, c')) :
    let before := c.keyspace.table
    let after := c'.keyspace.table
    let next := c.keyspace.revision + 1
    let ops := ranOperations t result
    let changed := result.outcomes.any Outcome.isChange
    result.succeeded = t.conditions.all (fun condition => condition.holds (before condition.key)) ∧
    (result.outcomes, after) = before.applyAll next ops ∧
    (∀ i, result.outcomes[i]? =
      ops[i]?.map fun op => ((before.applyAll next (ops.take i)).2.apply next op).1) ∧
    (∀ key, (∀ op ∈ ops, op.key ≠ key) → after key = before key) ∧
    (∀ key value lease r, .put key value lease ∈ ops → after key = some r → r.modified = next) ∧
    result.revision = c'.keyspace.revision ∧
    c'.keyspace.revision = (if changed then next else c.keyspace.revision) ∧
    changed = ops.any c.keyspace.isChangedBy ∧
    (changed = false → c' = c) ∧
    c'.access = c.access ∧ c'.members = c.members := by
  obtain ⟨-, haccepted⟩ := transact_eq_ok h
  cases haccepted
  obtain ⟨houtcomes, htable⟩ :=
    Keyspace.commit_eq_table_applyAll hc.consistent.keysMatch (c.branch t)
  have hchanged := Keyspace.any_isChange_commit c.keyspace (c.branch t)
  refine ⟨rfl, Prod.ext houtcomes htable, ?_, ?_, ?_, rfl, ?_, hchanged, ?_, rfl, rfl⟩
  · intro i
    exact (congrArg (·[i]?) houtcomes).trans (Table.getElem?_applyAll ..)
  · intro key hkey
    exact Keyspace.getElem?_commit_of_effectOn?_eq_none fun op hop =>
      Operation.effectOn?_of_key_ne (hkey op hop)
  · intro key value lease r hput hr
    exact Keyspace.modified_commit_of_put_mem hput hr
  · show (c.keyspace.commit (c.branch t)).2.revision = _
    rw [Keyspace.revision_commit, ← hchanged]
  · intro hnone
    have hsame := Keyspace.commit_of_not_isChangedBy (hchanged.symm.trans hnone)
    show { c with keyspace := (c.keyspace.commit (c.branch t)).2 } = c
    rw [hsame]

/-- A key that is deleted and written again in one transaction starts anew. -/
theorem transact_eq_table_run_deleted_first :
    let first : Transaction := { success := [.put [97] [1] none] }
    let second : Transaction :=
      { conditions := [⟨[97], .version, .equal, 1⟩]
        success := [.delete [97], .put [97] [2] none, .get [97]] }
    let c := ((founded []).accepted first).2
    let c' := (c.accepted second).2
    c.transact "root" 3 second = .ok (c.accepted second) ∧
      ((c.accepted second).1.outcomes, c'.keyspace.table) =
        c.keyspace.table.applyAll 3 second.success ∧
      (c.accepted second).1.outcomes = [.deleted 1, .put, .got [⟨[97], [2], 3, 3, 1, none⟩]] ∧
      c'.keyspace.revision = 3 := by
  intro first second c c'
  have hfirst : (founded []).transact "root" 3 first = .ok ((founded []).accepted first) := by rfl
  have hsecond : c.transact "root" 3 second = .ok (c.accepted second) := by rfl
  have hc : c.Reachable := ⟨[], _, run_transact hfirst⟩
  obtain ⟨-, htable, -, -, -, -, hrevision, -⟩ := transact_eq_table_run hc hsecond
  exact ⟨hsecond, htable, by decide, hrevision⟩

end ClusterVault.Cluster
