import ClusterVault.Proofs.Cluster.Run

/-!
# Compare and swap

A transaction can be made to depend on the history of a record that was read earlier. This module
shows that such a guard cannot be fooled by a key that was changed and changed back, or deleted and
created again: while the guarded number stays the same, nothing has happened that it guards against.
-/

namespace ClusterVault

namespace Condition

/-- The condition that the record under a key was last written at a revision. -/
def lastWrittenAt (key : Bytes) (revision : Int) : Condition := ⟨key, .modified, .equal, revision⟩

/-- The condition that the record under a key was created at a revision. -/
def createdAt (key : Bytes) (revision : Int) : Condition := ⟨key, .created, .equal, revision⟩

end Condition

namespace Keyspace

variable {ks : Keyspace} {key : Bytes} {revision : Int}

/-- A guard on a revision that records can have holds only of a record that has it. -/
theorem satisfies_lastWrittenAt (hrev : 1 < revision)
    (h : ks.satisfies (.lastWrittenAt key revision)) :
    ∃ r, ks.records[key]? = some r ∧ r.modified = revision := by
  simp only [satisfies, Condition.lastWrittenAt, Condition.holds, Relation.holds] at h
  cases hr : ks.records[key]? with
  | none =>
    -- an absent key reads as last written at 0
    simp only [hr, History.ofRecord?, decide_eq_true_eq] at h
    omega
  | some r =>
    simp only [hr, History.ofRecord?, decide_eq_true_eq] at h
    exact ⟨r, rfl, h⟩

theorem satisfies_createdAt (hrev : 1 < revision) (h : ks.satisfies (.createdAt key revision)) :
    ∃ r, ks.records[key]? = some r ∧ r.created = revision := by
  simp only [satisfies, Condition.createdAt, Condition.holds, Relation.holds] at h
  cases hr : ks.records[key]? with
  | none =>
    simp only [hr, History.ofRecord?, decide_eq_true_eq] at h
    omega
  | some r =>
    simp only [hr, History.ofRecord?, decide_eq_true_eq] at h
    exact ⟨r, rfl, h⟩

end Keyspace

namespace Cluster

variable {c₀ c₁ c₂ : Cluster} {ops₁ ops₂ : List Operation}

/-- Two points of a run with the same revision have the same records, whatever lies in between. -/
theorem Run.records_eq {c c' : Cluster} {ops : List Operation} (h : Run c ops c')
    (heq : c.keyspace.revision = c'.keyspace.revision) :
    c.keyspace.records = c'.keyspace.records :=
  h.keyspace.advances.records_eq heq

/-- While the last write of a key stays the same, its record does, and nothing is written under the
    key. -/
theorem Run.same_modified (h₀ : c₀.keyspace.Consistent) (h₁ : Run c₀ ops₁ c₁)
    (h₂ : Run c₁ ops₂ c₂) {key : Bytes} {r₀ r₂ : Record}
    (hr₀ : c₀.keyspace.records[key]? = some r₀) (hr₂ : c₂.keyspace.records[key]? = some r₂)
    (heq : r₀.modified = r₂.modified) :
    r₂ = r₀ ∧ c₁.keyspace.records[key]? = some r₀ ∧
      ∀ op ∈ ops₁ ++ ops₂, op.effectOn? key = none := by
  -- what is stored at the end was written before the run began
  have hle₀ : r₂.modified ≤ c₀.keyspace.revision := heq ▸ (h₀.fits key r₀ hr₀).modified_le
  have hle₁ : r₂.modified ≤ c₁.keyspace.revision :=
    le_trans hle₀ h₁.keyspace.advances.revision_le
  obtain ⟨hr₁, -⟩ := h₂.keyspace.unchanged_of_modified_le hr₂ hle₁
  obtain ⟨hsame, hops⟩ := (h₁.trans h₂).keyspace.unchanged_of_modified_le hr₂ hle₀
  rw [hr₀] at hsame
  cases hsame
  exact ⟨rfl, hr₁, hops⟩

/-- While the creation of a key stays the same, the key is there and is never deleted. -/
theorem Run.same_created (h₀ : c₀.keyspace.Consistent) (h₁ : Run c₀ ops₁ c₁)
    (h₂ : Run c₁ ops₂ c₂) {key : Bytes} {r₀ r₂ : Record}
    (hr₀ : c₀.keyspace.records[key]? = some r₀) (hr₂ : c₂.keyspace.records[key]? = some r₂)
    (heq : r₀.created = r₂.created) :
    (∃ r₁, c₁.keyspace.records[key]? = some r₁ ∧ r₁.created = r₀.created) ∧
      .delete key ∉ ops₁ ++ ops₂ := by
  have hfits := h₀.fits key r₀ hr₀
  have hle₀ : r₂.created ≤ c₀.keyspace.revision :=
    heq ▸ le_trans hfits.created_le_modified hfits.modified_le
  have hle₁ : r₂.created ≤ c₁.keyspace.revision :=
    le_trans hle₀ h₁.keyspace.advances.revision_le
  rw [heq]
  exact ⟨(h₂.keyspace.kept_of_created_le hr₂ hle₁).1,
    ((h₁.trans h₂).keyspace.kept_of_created_le hr₂ hle₀).2⟩

/-- A condition of a transaction that succeeded held before it ran. -/
theorem satisfies_of_succeeded {c c' : Cluster} {user : String} {limit : Nat} {t : Transaction}
    {result : Transaction.Result} (h : c.transact user limit t = .ok (result, c'))
    (hsucceeded : result.succeeded) {condition : Condition} (hmem : condition ∈ t.conditions) :
    c.keyspace.satisfies condition := by
  obtain ⟨-, haccepted⟩ := transact_eq_ok h
  cases haccepted
  exact List.all_eq_true.1 hsucceeded condition hmem

/-- Compare and swap is sound. Records are in order in every reachable state, the revision never
    falls and decides the records, and a number in the history of a record that is the same at two
    points of a run tells that nothing happened to the record, or to its incarnation, in between. So
    a transaction that is guarded by such a number succeeds only in that case. -/
theorem compareAndSwap_sound (h₀ : c₀.Reachable) (h₁ : Run c₀ ops₁ c₁) (h₂ : Run c₁ ops₂ c₂) :
    (∀ (key : Bytes) (r : Record), c₀.keyspace.records[key]? = some r →
      r.key = key ∧ 1 ≤ r.version ∧ 1 < r.created ∧ r.created ≤ r.modified ∧
        r.modified ≤ c₀.keyspace.revision) ∧
    (∀ key, (c₀.keyspace.satisfies (.absent key) ↔ c₀.keyspace.records[key]? = none) ∧
      (c₀.keyspace.satisfies (.present key) ↔ ∃ r, c₀.keyspace.records[key]? = some r)) ∧
    c₀.keyspace.revision ≤ c₂.keyspace.revision ∧
    (c₀.keyspace.revision = c₂.keyspace.revision →
      c₀.keyspace.records = c₂.keyspace.records) ∧
    (∀ (key : Bytes) (r₀ r₂ : Record), c₀.keyspace.records[key]? = some r₀ →
      c₂.keyspace.records[key]? = some r₂ →
      (r₀.modified = r₂.modified → r₂ = r₀ ∧ c₁.keyspace.records[key]? = some r₀ ∧
        ∀ op ∈ ops₁ ++ ops₂, op.effectOn? key = none) ∧
      (r₀.created = r₂.created →
        (∃ r₁, c₁.keyspace.records[key]? = some r₁ ∧ r₁.created = r₀.created) ∧
          .delete key ∉ ops₁ ++ ops₂)) ∧
    (∀ (key : Bytes) (r₀ : Record) (user : String) (limit : Nat) (t : Transaction)
      (result : Transaction.Result) (c₃ : Cluster), c₀.keyspace.records[key]? = some r₀ →
      c₂.transact user limit t = .ok (result, c₃) → result.succeeded →
      (.lastWrittenAt key r₀.modified ∈ t.conditions →
        c₁.keyspace.records[key]? = some r₀ ∧ c₂.keyspace.records[key]? = some r₀ ∧
          ∀ op ∈ ops₁ ++ ops₂, op.effectOn? key = none) ∧
      (.createdAt key r₀.created ∈ t.conditions →
        (∃ r₁, c₁.keyspace.records[key]? = some r₁ ∧ r₁.created = r₀.created) ∧
          (∃ r₂, c₂.keyspace.records[key]? = some r₂ ∧ r₂.created = r₀.created) ∧
            .delete key ∉ ops₁ ++ ops₂)) := by
  have hks := h₀.consistent
  refine ⟨?_, fun key => ⟨hks.satisfies_absent key, hks.satisfies_present key⟩, ?_, ?_, ?_, ?_⟩
  · intro key r hr
    have hfits := hks.fits key r hr
    exact ⟨hfits.key_eq, hfits.one_le_version, hfits.one_lt_created, hfits.created_le_modified,
      hfits.modified_le⟩
  · exact (h₁.trans h₂).keyspace.advances.revision_le
  · exact (h₁.trans h₂).records_eq
  · intro key r₀ r₂ hr₀ hr₂
    exact ⟨Run.same_modified hks h₁ h₂ hr₀ hr₂, Run.same_created hks h₁ h₂ hr₀ hr₂⟩
  · intro key r₀ user limit t result c₃ hr₀ h hsucceeded
    have hfits := hks.fits key r₀ hr₀
    have hcreated := hfits.one_lt_created
    constructor
    · -- the guard on the last write holds at the end, so the record there has the same last write
      intro hguard
      have hmodified : 1 < r₀.modified := lt_of_lt_of_le hcreated hfits.created_le_modified
      obtain ⟨r₂, hr₂, heq⟩ := Keyspace.satisfies_lastWrittenAt hmodified
        (satisfies_of_succeeded h hsucceeded hguard)
      obtain ⟨rfl, hr₁, hops⟩ := Run.same_modified hks h₁ h₂ hr₀ hr₂ heq.symm
      exact ⟨hr₁, hr₂, hops⟩
    · -- the guard on the creation
      intro hguard
      obtain ⟨r₂, hr₂, heq⟩ := Keyspace.satisfies_createdAt hcreated
        (satisfies_of_succeeded h hsucceeded hguard)
      obtain ⟨hr₁, hdelete⟩ := Run.same_created hks h₁ h₂ hr₀ hr₂ heq.symm
      exact ⟨hr₁, ⟨r₂, hr₂, heq⟩, hdelete⟩

/-- A write of another key and a look at the clock do not get in the way of a guarded write. -/
theorem compareAndSwap_sound_other_key :
    let write (key : Bytes) : Transaction := { success := [.put key [1] none] }
    let swap : Transaction :=
      { conditions := [.lastWrittenAt [97] 2, .createdAt [97] 2]
        success := [.put [97] [2] none] }
    let c₀ := ((founded []).accepted (write [97])).2
    let c₁ := (c₀.accepted (write [98])).2
    let c₂ := c₁.expire 5
    c₂.transact "root" 2 swap = .ok (c₂.accepted swap) ∧ (c₂.accepted swap).1.succeeded ∧
      c₁.keyspace.records[([97] : Bytes)]? = some ⟨[97], [1], 2, 2, 1, none⟩ ∧
      c₂.keyspace.records[([97] : Bytes)]? = some ⟨[97], [1], 2, 2, 1, none⟩ := by
  intro write swap c₀ c₁ c₂
  have hfirst : (founded []).transact "root" 2 (write [97]) =
      .ok ((founded []).accepted (write [97])) := by rfl
  have hsecond : c₀.transact "root" 2 (write [98]) = .ok (c₀.accepted (write [98])) := by rfl
  have hswap : c₂.transact "root" 2 swap = .ok (c₂.accepted swap) := by rfl
  have hsucceeded : (c₂.accepted swap).1.succeeded := by decide
  have hstored : c₀.keyspace.records[([97] : Bytes)]? = some ⟨[97], [1], 2, 2, 1, none⟩ := by
    decide
  have h₀ : c₀.Reachable := ⟨[], _, run_transact hfirst⟩
  obtain ⟨-, -, -, -, -, hguarded⟩ :=
    compareAndSwap_sound h₀ (run_transact hsecond) (Step.expire c₁ 5).run
  obtain ⟨hr₁, hr₂, -⟩ :=
    (hguarded [97] _ "root" 2 swap _ _ hstored hswap hsucceeded).1 List.mem_cons_self
  exact ⟨hswap, hsucceeded, hr₁, hr₂⟩

end Cluster

end ClusterVault
