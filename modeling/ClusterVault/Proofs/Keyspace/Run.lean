import ClusterVault.Proofs.Keyspace.Effect

/-!
# Runs of a keyspace

All that ever happens to a keyspace is that a transaction commits, a lease is granted, or a lease is
dropped. This module states what one such step preserves, and from it what a whole run preserves.

## Main definitions

- `Keyspace.Step`, `Keyspace.Run`: one change and any number of changes, with the operations that
  were run for them
- `Keyspace.Advances`: how the revision and the history of the records move on

## Design notes

Two numbers in a record come from the revision. A step that touches records raises the revision
first, so whatever it writes carries a number above all numbers that were there before. This is the
relation `Advances`. It is transitive, which is what lifts it from steps to runs.
-/

namespace ClusterVault.Keyspace

/-- One change of a keyspace, with the operations that are run for it. -/
inductive Step : Keyspace → List Operation → Keyspace → Prop
  | commit {ks : Keyspace} {ops : List Operation} (h : ks.LeasesExist ops) :
    Step ks ops (ks.commit ops).2
  | grantLease {ks : Keyspace} (deadline : Instant) : Step ks [] (ks.grantLease deadline)
  | dropLease {ks : Keyspace} (id : LeaseId) : Step ks [] (ks.dropLease id)

/-- Any number of changes, with all operations that are run for them in order. -/
inductive Run : Keyspace → List Operation → Keyspace → Prop
  | nil (ks : Keyspace) : Run ks [] ks
  | snoc {ks ks' ks'' : Keyspace} {ops ran : List Operation} :
    Run ks ops ks' → Step ks' ran ks'' → Run ks (ops ++ ran) ks''

variable {ks ks' ks'' : Keyspace} {ops ops' : List Operation} {key : Bytes} {id : LeaseId}

theorem Step.run (h : Step ks ops ks') : Run ks ops ks' :=
  List.nil_append ops ▸ Run.snoc (Run.nil ks) h

theorem Run.trans (h : Run ks ops ks') (h' : Run ks' ops' ks'') : Run ks (ops ++ ops') ks'' := by
  induction h' with
  | nil => simpa using h
  | snoc _ hstep ih =>
    rw [← List.append_assoc]
    exact ih.snoc hstep

theorem run_foldl_dropLease (ks : Keyspace) (ids : List LeaseId) :
    Run ks [] (ids.foldl dropLease ks) := by
  induction ids generalizing ks with
  | nil => exact Run.nil ks
  | cons first ids ih => exact (Step.dropLease first).run.trans (ih (ks.dropLease first))

/-- Expiry is a run that drops one lease after the other. -/
theorem run_expire (ks : Keyspace) (now : Instant) : Run ks [] (ks.expire now) :=
  run_foldl_dropLease ks _

/-! ## The invariant -/

theorem Step.consistent (h : Step ks ops ks') (hks : ks.Consistent) : ks'.Consistent := by
  cases h with
  | commit hlease => exact hks.commit hlease
  | grantLease d => exact hks.grantLease d
  | dropLease id => exact hks.dropLease id

theorem Run.consistent (h : Run ks ops ks') (hks : ks.Consistent) : ks'.Consistent := by
  induction h with
  | nil => exact hks
  | snoc _ hstep ih => exact hstep.consistent ih

/-! ## Revisions and histories -/

/-- How a keyspace moves on: the revision does not fall, the records change only with it, and every
    record that is new or was written again carries a revision above the old one. -/
structure Advances (ks ks' : Keyspace) : Prop where
  revision_le : ks.revision ≤ ks'.revision
  records_eq : ks.revision = ks'.revision → ks.records = ks'.records
  modified : ∀ (k : Bytes) (r : Record), ks'.records[k]? = some r →
    ks.records[k]? = some r ∨ ks.revision < r.modified
  created : ∀ (k : Bytes) (r : Record), ks'.records[k]? = some r →
    (∃ old, ks.records[k]? = some old ∧ old.created = r.created) ∨ ks.revision < r.created

theorem Advances.refl (ks : Keyspace) : Advances ks ks where
  revision_le := le_refl _
  records_eq _ := rfl
  modified _ _ hr := .inl hr
  created _ r hr := .inl ⟨r, hr, rfl⟩

theorem Advances.trans (h : Advances ks ks') (h' : Advances ks' ks'') : Advances ks ks'' where
  revision_le := le_trans h.revision_le h'.revision_le
  records_eq heq := by
    have hle := h.revision_le
    have hle' := h'.revision_le
    exact (h.records_eq (by omega)).trans (h'.records_eq (by omega))
  modified k r hr := by
    have hle := h.revision_le
    rcases h'.modified k r hr with hsame | hlt
    · exact h.modified k r hsame
    · exact .inr (by omega)
  created k r hr := by
    have hle := h.revision_le
    rcases h'.created k r hr with ⟨mid, hmid, heq⟩ | hlt
    · rw [← heq]
      exact h.created k mid hmid
    · exact .inr (by omega)

theorem getElem?_apply_cases {op : Operation} {k : Bytes} {r : Record}
    (hr : (ks.apply op).2.records[k]? = some r) :
    ks.records[k]? = some r ∨ (∃ value lease, op = .put k value lease ∧
      r = ks.written k value lease ks.records[k]?) := by
  cases op with
  | put key value lease =>
    change (ks.put key value lease).records[k]? = some r at hr
    rw [getElem?_put] at hr
    by_cases heq : key = k
    · subst heq
      rw [if_pos rfl] at hr
      exact .inr ⟨value, lease, rfl, (Option.some.inj hr).symm⟩
    · rw [if_neg heq] at hr
      exact .inl hr
  | get key => exact .inl hr
  | delete key =>
    simp only [apply] at hr
    split at hr
    · change (ks.delete key).records[k]? = some r at hr
      rw [getElem?_delete] at hr
      by_cases heq : key = k
      · simp [heq] at hr
      · rw [if_neg heq] at hr
        exact .inl hr
    · exact .inl hr

theorem modified_written {value : Bytes} {lease : Option LeaseId} (old : Option Record) :
    (ks.written key value lease old).modified = ks.revision := by
  cases old <;> rfl

theorem modified_applyAll {k : Bytes} {r : Record}
    (hr : (ks.applyAll ops).2.records[k]? = some r) :
    ks.records[k]? = some r ∨ r.modified = ks.revision := by
  induction ops generalizing ks with
  | nil => exact .inl hr
  | cons op ops ih =>
    rw [applyAll_cons] at hr
    rcases ih hr with hmid | hmod
    · rcases getElem?_apply_cases hmid with hsame | ⟨value, lease, -, rfl⟩
      · exact .inl hsame
      · exact .inr (modified_written _)
    · rw [revision_apply] at hmod
      exact .inr hmod

/-- Whatever is stored in the end under a key that was written carries the revision of the
    writes. -/
theorem modified_of_put_mem {value : Bytes} {lease : Option LeaseId} {r : Record}
    (hput : .put key value lease ∈ ops) (hr : (ks.applyAll ops).2.records[key]? = some r) :
    r.modified = ks.revision := by
  induction ops generalizing ks with
  | nil => cases hput
  | cons op ops ih =>
    rw [applyAll_cons] at hr
    rcases List.mem_cons.1 hput with rfl | hrest
    · rcases modified_applyAll hr with hmid | hmod
      · change (ks.put key value lease).records[key]? = some r at hmid
        rw [getElem?_put, if_pos rfl] at hmid
        exact Option.some.inj hmid ▸ modified_written _
      · rw [hmod, revision_apply]
    · rw [ih hrest hr, revision_apply]

theorem revision_commit (ks : Keyspace) (ops : List Operation) :
    (ks.commit ops).2.revision =
      if ops.any ks.isChangedBy then ks.revision + 1 else ks.revision := by
  rw [commit_eq, revision_applyAll, revision_atRevisionOf]

theorem modified_commit_of_put_mem {value : Bytes} {lease : Option LeaseId} {r : Record}
    (hput : .put key value lease ∈ ops) (hr : (ks.commit ops).2.records[key]? = some r) :
    r.modified = ks.revision + 1 := by
  rw [commit_eq] at hr
  rw [modified_of_put_mem hput hr, revision_atRevisionOf,
    if_pos (any_isChangedBy_of_isPut hput rfl)]

theorem created_applyAll {k : Bytes} {r : Record}
    (hr : (ks.applyAll ops).2.records[k]? = some r) :
    (∃ old, ks.records[k]? = some old ∧ old.created = r.created) ∨ r.created = ks.revision := by
  induction ops generalizing ks r with
  | nil => exact .inl ⟨r, hr, rfl⟩
  | cons op ops ih =>
    rw [applyAll_cons] at hr
    rcases ih hr with ⟨mid, hmid, hcreated⟩ | hnew
    · rw [← hcreated]
      rcases getElem?_apply_cases hmid with hsame | ⟨value, lease, -, rfl⟩
      · exact .inl ⟨mid, hsame, rfl⟩
      · cases hold : ks.records[k]? with
        | none => exact .inr rfl
        | some old => exact .inl ⟨old, rfl, rfl⟩
    · rw [revision_apply] at hnew
      exact .inr hnew

/-- A record under a key that was written in a transaction was written in that transaction. -/
theorem put_mem_of_effectOn? {op : Operation} {r : Record} (hop : op ∈ ops)
    (heffect : op.effectOn? key ≠ none) (hr : (ks.commit ops).2.records[key]? = some r) :
    ∃ value lease, .put key value lease ∈ ops := by
  have hcontent : (ks.commit ops).2.content? key = some (r.value, r.lease) := by
    rw [content?, hr]
    rfl
  rw [content?_commit] at hcontent
  cases hlast : Operation.lastEffectOn? key ops with
  | none => exact absurd (Operation.lastEffectOn?_eq_none.1 hlast op hop) heffect
  | some effect =>
    rw [hlast, Option.getD_some] at hcontent
    subst hcontent
    exact ⟨r.value, r.lease, Operation.put_mem_of_lastEffectOn? hlast⟩

/-- A record that does not carry the new revision was not touched. -/
theorem effectOn?_eq_none_of_modified_le {r : Record}
    (hr : (ks.commit ops).2.records[key]? = some r) (hle : r.modified ≤ ks.revision) :
    ∀ op ∈ ops, op.effectOn? key = none := by
  intro op hop
  by_contra heffect
  obtain ⟨value, lease, hput⟩ := put_mem_of_effectOn? hop heffect hr
  have := modified_commit_of_put_mem hput hr
  omega

theorem created_of_delete_mem {r : Record} (hdelete : .delete key ∈ ops)
    (hr : (ks.applyAll ops).2.records[key]? = some r) : r.created = ks.revision := by
  induction ops generalizing ks with
  | nil => cases hdelete
  | cons op ops ih =>
    rw [applyAll_cons] at hr
    rcases List.mem_cons.1 hdelete with rfl | hrest
    · have habsent : (ks.apply (.delete key)).2.records[key]? = none := by
        rw [← content?_eq_none, content?_apply, Operation.effectOn?, if_pos rfl]
        rfl
      rcases created_applyAll hr with ⟨old, hold, -⟩ | hnew
      · rw [habsent] at hold
        cases hold
      · rw [hnew, revision_apply]
    · rw [ih hrest hr, revision_apply]

/-- A record that was not created at the new revision was not deleted. -/
theorem delete_not_mem_of_created_le {r : Record}
    (hr : (ks.commit ops).2.records[key]? = some r) (hle : r.created ≤ ks.revision) :
    .delete key ∉ ops := by
  intro hdelete
  have heffect : (Operation.delete key).effectOn? key ≠ none := by simp [Operation.effectOn?]
  obtain ⟨value, lease, hput⟩ := put_mem_of_effectOn? hdelete heffect hr
  rw [commit_eq] at hr
  have hcreated := created_of_delete_mem hdelete hr
  rw [revision_atRevisionOf, if_pos (any_isChangedBy_of_isPut hput rfl)] at hcreated
  omega

theorem advances_commit (ks : Keyspace) (ops : List Operation) :
    Advances ks (ks.commit ops).2 := by
  cases hchanged : ops.any ks.isChangedBy with
  | false =>
    rw [commit_of_not_isChangedBy hchanged]
    exact Advances.refl ks
  | true =>
    -- all that the operations write carries the one revision above the old one
    have hrev : (ks.atRevisionOf ops).revision = ks.revision + 1 := by
      rw [revision_atRevisionOf, hchanged]
      rfl
    rw [commit_eq]
    refine ⟨?_, ?_, ?_, ?_⟩
    · rw [revision_applyAll, hrev]
      omega
    · intro heq
      rw [revision_applyAll, hrev] at heq
      omega
    · intro k r hr
      rcases modified_applyAll hr with hsame | hmod
      · rw [records_atRevisionOf] at hsame
        exact .inl hsame
      · exact .inr (by omega)
    · intro k r hr
      rcases created_applyAll hr with ⟨old, hold, hcreated⟩ | hnew
      · rw [records_atRevisionOf] at hold
        exact .inl ⟨old, hold, hcreated⟩
      · exact .inr (by omega)

theorem advances_dropLease (ks : Keyspace) (id : LeaseId) : Advances ks (ks.dropLease id) where
  revision_le := by
    rw [revision_dropLease]
    split <;> omega
  records_eq heq := by
    -- the revision stays only if the lease has no keys, and then no record goes
    rw [revision_dropLease] at heq
    split at heq
    · next hempty =>
      apply Std.ExtTreeMap.ext_getElem?
      intro k
      rw [Std.ExtTreeSet.isEmpty_iff] at hempty
      rw [getElem?_dropLease, hempty, if_neg Std.ExtTreeSet.not_mem_empty]
    · omega
  modified k r hr := by
    rw [getElem?_dropLease] at hr
    split at hr
    · cases hr
    · exact .inl hr
  created k r hr := by
    rw [getElem?_dropLease] at hr
    split at hr
    · cases hr
    · exact .inl ⟨r, hr, rfl⟩

theorem Step.advances (h : Step ks ops ks') : Advances ks ks' := by
  cases h with
  | commit _ => exact advances_commit ks ops
  | grantLease d =>
    exact ⟨le_refl _, fun _ => rfl, fun _ _ hr => .inl hr, fun _ r hr => .inl ⟨r, hr, rfl⟩⟩
  | dropLease id => exact advances_dropLease ks id

theorem Run.advances (h : Run ks ops ks') : Advances ks ks' := by
  induction h with
  | nil => exact Advances.refl _
  | snoc _ hstep ih => exact ih.trans hstep.advances

/-- A record whose last write lies before a run was stored unchanged all through it, and nothing was
    written under its key. -/
theorem Run.unchanged_of_modified_le (h : Run ks ops ks') {r : Record}
    (hr : ks'.records[key]? = some r) (hle : r.modified ≤ ks.revision) :
    ks.records[key]? = some r ∧ ∀ op ∈ ops, op.effectOn? key = none := by
  induction h with
  | nil => exact ⟨hr, fun op hop => absurd hop List.not_mem_nil⟩
  | @snoc mid last ops ran hrun hstep ih =>
    -- the last step writes above the revision it starts from, so it did not write this record
    have hmid : r.modified ≤ mid.revision := le_trans hle hrun.advances.revision_le
    have hsame : mid.records[key]? = some r := by
      rcases hstep.advances.modified key r hr with hsame | hlt
      · exact hsame
      · omega
    have hran : ∀ op ∈ ran, op.effectOn? key = none := by
      cases hstep with
      | commit _ => exact effectOn?_eq_none_of_modified_le hr hmid
      | grantLease | dropLease => exact fun op hop => absurd hop List.not_mem_nil
    obtain ⟨hstored, hops⟩ := ih hsame
    exact ⟨hstored, fun op hop => (List.mem_append.1 hop).elim (hops op) (hran op)⟩

/-- A record that was created before a run has been there all through it and was never deleted. -/
theorem Run.kept_of_created_le (h : Run ks ops ks') {r : Record}
    (hr : ks'.records[key]? = some r) (hle : r.created ≤ ks.revision) :
    (∃ old, ks.records[key]? = some old ∧ old.created = r.created) ∧ .delete key ∉ ops := by
  -- the record may be written again on the way, so it varies in the induction
  induction h generalizing r with
  | nil => exact ⟨⟨r, hr, rfl⟩, List.not_mem_nil⟩
  | @snoc mid last ops ran hrun hstep ih =>
    have hmid : r.created ≤ mid.revision := le_trans hle hrun.advances.revision_le
    obtain ⟨old, hold, hcreated⟩ : ∃ old, mid.records[key]? = some old ∧
        old.created = r.created := by
      rcases hstep.advances.created key r hr with hkept | hlt
      · exact hkept
      · omega
    have hran : .delete key ∉ ran := by
      cases hstep with
      | commit _ => exact delete_not_mem_of_created_le hr hmid
      | grantLease | dropLease => exact List.not_mem_nil
    obtain ⟨hkept, hops⟩ := ih hold (hcreated ▸ hle)
    rw [hcreated] at hkept
    exact ⟨hkept, fun hdelete => (List.mem_append.1 hdelete).elim hops hran⟩

/-! ## Leases -/

/-- A lease that has been granted and is gone. -/
def IsSpent (ks : Keyspace) (id : LeaseId) : Prop := id < ks.nextLease ∧ ks.deadline? id = none

theorem Step.nextLease_le (h : Step ks ops ks') : ks.nextLease ≤ ks'.nextLease := by
  cases h with
  | commit _ => simp [commit_eq]
  | grantLease d => exact le_of_lt (Int.lt_succ _)
  | dropLease id => simp

theorem Run.nextLease_le (h : Run ks ops ks') : ks.nextLease ≤ ks'.nextLease := by
  induction h with
  | nil => exact le_refl _
  | snoc _ hstep ih => exact le_trans ih hstep.nextLease_le

/-- No lease comes back. -/
theorem Step.isSpent (h : Step ks ops ks') (hspent : ks.IsSpent id) : ks'.IsSpent id := by
  refine ⟨lt_of_lt_of_le hspent.1 h.nextLease_le, ?_⟩
  cases h with
  | commit _ => simpa [commit_eq] using hspent.2
  | grantLease d => rw [deadline?_grantLease, if_neg (ne_of_gt hspent.1), hspent.2]
  | dropLease id' => rw [deadline?_dropLease, hspent.2, ite_self]

theorem Run.isSpent (h : Run ks ops ks') (hspent : ks.IsSpent id) : ks'.IsSpent id := by
  induction h with
  | nil => exact hspent
  | snoc _ hstep ih => exact hstep.isSpent ih

/-! ## Contents -/

/-- A step leaves under every key what its operations say, unless it drops the lease of the key. -/
theorem Step.content?_eq (h : Step ks ops ks') (hks : ks.Consistent) (key : Bytes) :
    ks'.content? key = none ∨
      ks'.content? key = (Operation.lastEffectOn? key ops).getD (ks.content? key) := by
  cases h with
  | commit _ => exact .inr (content?_commit ks ops key)
  | grantLease d => exact .inr rfl
  | dropLease id =>
    rw [hks.content?_dropLease]
    cases ks.content? key with
    | none => exact .inl rfl
    | some c => by_cases hl : c.2 = some id <;> simp [hl, Option.filter, Operation.lastEffectOn?]

/-- What is stored after a run was left by the last operation of the run that wrote the key, if
    there is one, and was there before otherwise. -/
theorem Run.content?_eq (h : Run ks ops ks') (hks : ks.Consistent) (key : Bytes) :
    ks'.content? key = none ∨
      ks'.content? key = (Operation.lastEffectOn? key ops).getD (ks.content? key) := by
  induction h with
  | nil => exact .inr rfl
  | @snoc mid last ops ran hrun hstep ih =>
    rcases hstep.content?_eq (hrun.consistent hks) key with hnone | heq
    · exact .inl hnone
    · rw [heq, Operation.lastEffectOn?_append]
      cases heffect : Operation.lastEffectOn? key ran with
      | some effect => exact .inr rfl
      | none => exact ih

/-- What the last write of a key left is still there, unless its lease is gone. -/
theorem Run.content?_eq_or_isSpent (h : Run ks ops ks') (hks : ks.Consistent) {value : Bytes}
    {lease : Option LeaseId} (hlast : Operation.lastEffectOn? key ops = some (some (value, lease))) :
    ks'.content? key = some (value, lease) ∨ ∃ id, lease = some id ∧ ks'.IsSpent id := by
  induction h with
  | nil => cases hlast
  | @snoc mid last ops ran hrun hstep ih =>
    rw [Operation.lastEffectOn?_append] at hlast
    cases hran : Operation.lastEffectOn? key ran with
    | some effect =>
      -- only a transaction runs operations, and it ends no lease
      rw [hran, Option.some_or] at hlast
      cases hstep with
      | commit _ =>
        rw [content?_commit, hran, hlast]
        exact .inl rfl
      | grantLease | dropLease => cases hran
    | none =>
      rw [hran, Option.none_or] at hlast
      rcases ih hlast with hstored | ⟨id, hid, hspent⟩
      · cases hstep with
        | commit _ =>
          rw [content?_commit, hran]
          exact .inl hstored
        | grantLease d => exact .inl hstored
        | dropLease id =>
          have hmid := hrun.consistent hks
          rw [hmid.content?_dropLease, hstored]
          by_cases hid : lease = some id
          · -- the lease of the key itself goes, and with it what was left
            have hlease : mid.leaseOf key = some id := by
              rw [leaseOf_eq_content?, hstored]
              exact hid
            obtain ⟨d, hd⟩ := hmid.deadline?_of_leaseOf hlease
            refine .inr ⟨id, hid, ?_, ?_⟩
            · rw [nextLease_dropLease]
              exact (hmid.lease_lt_next id d hd).2
            · rw [deadline?_dropLease, if_pos rfl]
          · exact .inl (by simp [hid])
      · exact .inr ⟨id, hid, hstep.isSpent hspent⟩

end ClusterVault.Keyspace
