import ClusterVault.Proofs.Access.Checks
import ClusterVault.Proofs.Secrets.Requests

/-!
# The secrets that a cluster keeps

What each request of a store of secrets does to the secrets of a cluster, whoever makes it and whether
or not it is refused. Only a transaction that is run changes them, and only if all secrets that it
names are there, or none of them.

## Main definitions

- `Cluster.secretAt`: the secret kept under an id that has not ended
- `Cluster.KeepsSecrets`: from an instant on the same secrets are kept

## Main statements

- `Cluster.writing_cases`, `Cluster.deleting_cases`: what a transaction that is run comes to
- `Cluster.exists_serve_reading`: what is read
- `Cluster.keepsSecrets_of_refused`, `Cluster.grantLease_of_serve`,
  `Cluster.keepsSecrets_revokeLease`: other requests change no secrets
-/

namespace ClusterVault.Cluster

open SecretStore

variable {c c' c'' : Cluster} {user : String} {now later : Instant} {limit : Nat} {id : String}
  {lease : Option LeaseId} {secrets : Secrets} {ids : List String} {ttl : Int}

/-- The secret kept under an id that has not ended at an instant. -/
def secretAt (c : Cluster) (now : Instant) (id : String) : Option Secret :=
  (c.keyspace.secret? id).filter (·.isLive now)

/-- From an instant on the same secrets are kept, with the same values and deadlines. -/
def KeepsSecrets (now : Instant) (c c' : Cluster) : Prop :=
  ∀ later id, now ≤ later → c'.secretAt later id = c.secretAt later id

theorem KeepsSecrets.refl (now : Instant) (c : Cluster) : KeepsSecrets now c c := fun _ _ _ => rfl

theorem KeepsSecrets.trans (h : KeepsSecrets now c c') (h' : KeepsSecrets now c' c'') :
    KeepsSecrets now c c'' :=
  fun later id hle => (h' later id hle).trans (h later id hle)

theorem KeepsSecrets.mono (h : KeepsSecrets now c c') (hle : now ≤ later) :
    KeepsSecrets later c c' :=
  fun last id hlast => h last id (Nat.le_trans hle hlast)

/-- What is the same at an instant is the same from then on. -/
theorem keepsSecrets_of_secret? (h : ∀ id, c'.keyspace.secret? id = c.secretAt now id) :
    KeepsSecrets now c c' := by
  intro later id hle
  rw [secretAt, secretAt, h, secretAt, Secret.filter_isLive_of_le hle]

/-! ## Any request -/

section Serve

variable {command : Command} {t : Transaction} {e : EngineError} {result : Transaction.Result}

theorem eq_expire_of_serve_eq_error (h : c.serve user now limit command = (.error e, c')) :
    c' = c.expire now := by
  cases hhandle : (c.expire now).handle user now limit command with
  | error e' =>
    rw [serve_of_handle_eq_error hhandle] at h
    exact (Prod.mk.inj h).2.symm
  | ok answer =>
    rw [serve_of_handle_eq_ok hhandle] at h
    cases h

theorem handle_of_serve_eq_ok {reply : command.Reply}
    (h : c.serve user now limit command = (.ok reply, c')) :
    (c.expire now).handle user now limit command = .ok (reply, c') := by
  cases hhandle : (c.expire now).handle user now limit command with
  | error e =>
    rw [serve_of_handle_eq_error hhandle] at h
    cases h
  | ok answer =>
    rw [serve_of_handle_eq_ok hhandle] at h
    cases h
    rfl

/-- A transaction that is run has passed all checks. -/
theorem attempt_of_serve_eq_ok (h : c.serve user now limit (.transact t) = (.ok result, c')) :
    (c.expire now).attempt t = (.ok result, c') ∧ t.maxBranchLength ≤ limit ∧
      c.access.authorizeAll user (demands t) = .ok () := by
  have hhandle : (c.expire now).transact user limit t = .ok (result, c') := handle_of_serve_eq_ok h
  rw [transact_eq] at hhandle
  split at hhandle
  · next hsize =>
    split at hhandle
    · cases hhandle
    · next hauthorized =>
      split at hhandle
      · cases hhandle
      · next hmissing =>
        rw [attempt, hmissing]
        cases hhandle
        exact ⟨rfl, hsize.1, hauthorized⟩
  · cases hhandle

theorem serve_of_attempt (hsize : t.maxBranchLength ≤ limit ∧ t.conditions.length ≤ limit)
    (hauthorized : c.access.authorizeAll user (demands t) = .ok ())
    (hattempt : (c.expire now).attempt t = (.ok result, c')) :
    c.serve user now limit (.transact t) = (.ok result, c') := by
  have hexpired : (c.expire now).access.authorizeAll user (demands t) = .ok () := hauthorized
  have hrun : (c.expire now).transact user limit t = .ok (result, c') := by
    rw [transact_eq, if_pos hsize, hexpired]
    rw [attempt] at hattempt
    cases hmissing : (c.expire now).keyspace.missingLease? ((c.expire now).branch t) with
    | some id =>
      rw [hmissing] at hattempt
      cases hattempt
    | none =>
      rw [hmissing] at hattempt
      cases hattempt
      rfl
  exact serve_of_handle_eq_ok hrun

end Serve

section Consistent

variable (hc : c.keyspace.Consistent)

include hc

theorem secret?_expire (now : Instant) (id : String) :
    (c.expire now).keyspace.secret? id = c.secretAt now id :=
  hc.secret?_expire now id

/-- A look at the clock changes no secret that has not ended. -/
theorem keepsSecrets_expire (now : Instant) : KeepsSecrets now c (c.expire now) :=
  keepsSecrets_of_secret? (secret?_expire hc now)

theorem keepsSecrets_of_refused {command : Command} {e : EngineError}
    (h : c.serve user now limit command = (.error e, c')) : KeepsSecrets now c c' := by
  rw [eq_expire_of_serve_eq_error h]
  exact keepsSecrets_expire hc now

/-! ## Leases -/

/-- A new lease ends when it is meant to, and has no secrets. -/
theorem grantLease_of_serve {l : LeaseId}
    (h : c.serve user now limit (.grantLease ttl) = (.ok l, c')) :
    ∃ deadline, now.ofSecondsAfter? ttl.toNat = some deadline ∧
      c'.keyspace.deadline? l = some deadline ∧ l < c'.keyspace.nextLease ∧
      ¬c'.keyspace.Secures l ∧ KeepsSecrets now c c' := by
  have hexpired := hc.expire now
  obtain ⟨deadline, hdeadline, rfl, rfl⟩ := grantLease_eq_ok (handle_of_serve_eq_ok h)
  refine ⟨deadline, hdeadline, ?_, Int.lt_succ _, hexpired.not_secures_nextLease, ?_⟩
  · exact (Keyspace.deadline?_grantLease ..).trans (if_pos rfl)
  · refine keepsSecrets_of_secret? fun id => ?_
    rw [← secret?_expire hc now id]
    exact hexpired.secret?_grantLease deadline id

/-- A lease without secrets may be revoked. -/
theorem keepsSecrets_revokeLease {l : LeaseId} {reply : Except EngineError Unit}
    (hfree : ¬c.keyspace.Secures l) (h : c.serve user now limit (.revokeLease l) = (reply, c')) :
    KeepsSecrets now c c' := by
  cases reply with
  | error e => exact keepsSecrets_of_refused hc h
  | ok u =>
    have hrevoke : (c.expire now).revokeLease user l = .ok c' := plain_eq_ok (handle_of_serve_eq_ok h)
    rw [revokeLease_eq_ok hrevoke]
    refine keepsSecrets_of_secret? fun id => ?_
    have hstill : ¬(c.expire now).keyspace.Secures l := mt hc.secures_expire hfree
    rw [← secret?_expire hc now id]
    exact (hc.expire now).secret?_dropLease hstill id

/-! ## Transactions -/

/-- The cluster as a vault, at an instant. -/
theorem secret?_eq_live (now : Instant) (id : String) : (c.expire now).keyspace.secret? id =
    ({ now, secrets := c.keyspace.secret? } : Vault).live id :=
  secret?_expire hc now id

/-- Either one of the secrets is there, and nothing is written, or all of them are written. -/
theorem writing_cases {result : Transaction.Result} (hsize : secrets.size ≠ 0)
    (h : c.serve user now limit (.transact (writing secrets.toList lease)) = (.ok result, c')) :
    (∃ found, found = secrets.keys.filter (fun id => (c.secretAt now id).isSome) ∧ found ≠ [] ∧
      written secrets.toList (.ok result) = .error (.secretsExist found) ∧ c' = c.expire now) ∨
    ((∀ id ∈ secrets, c.secretAt now id = none) ∧ written secrets.toList (.ok result) = .ok () ∧
      (∀ l, lease = some l → ((c.expire now).keyspace.deadline? l).isSome) ∧
      ∀ id, c'.keyspace.secret? id =
        (secrets[id]?.map (⟨·, lease.bind (c.expire now).keyspace.deadline?⟩)).or
          (c.secretAt now id)) := by
  obtain ⟨hattempt, -, -⟩ := attempt_of_serve_eq_ok h
  have hexpired := hc.expire now
  have hlive := secret?_eq_live hc now
  by_cases hfound : secrets.keys.filter
      ({ now, secrets := c.keyspace.secret? } : Vault).has = []
  · -- none of them is there, so the lease is
    have hexist (l : LeaseId) (hl : lease = some l) :
        ((c.expire now).keyspace.deadline? l).isSome := by
      subst hl
      by_contra hgone
      rw [Option.not_isSome_iff_eq_none] at hgone
      have hrefused := attempt_writing_of_expired hexpired hlive hfound hsize hgone
      rw [hattempt] at hrefused
      cases hrefused
    obtain ⟨hwritten, hkeyspace⟩ := attempt_writing hexpired hlive hfound hexist
    rw [hattempt] at hwritten hkeyspace
    refine .inr ⟨?_, hwritten, hexist, fun id => ?_⟩
    · intro id hid
      rw [List.filter_eq_nil_iff] at hfound
      exact Option.not_isSome_iff_eq_none.1 (hfound id (Std.ExtTreeMap.mem_keys.2 hid))
    · dsimp only at hkeyspace
      rw [hkeyspace, ← secret?_expire hc now id]
      exact Keyspace.secret?_commit_puts secrets (c.expire now).keyspace lease id
  · have hconflict : written secrets.toList
          ((c.expire now).attempt (writing secrets.toList lease)).1 = _ ∧ _ :=
      attempt_writing_of_conflict hexpired hlive hfound
    obtain ⟨hwritten, hsame⟩ := hconflict
    rw [hattempt] at hwritten hsame
    exact .inl ⟨_, rfl, hfound, hwritten, hsame⟩

/-- Either all secrets are there, and are deleted, or nothing is deleted. -/
theorem deleting_cases {result : Transaction.Result}
    (h : c.serve user now limit (.transact (deleting ids)) = (.ok result, c')) :
    (result.succeeded = false ∧ (∃ id ∈ ids, c.secretAt now id = none) ∧ c' = c.expire now) ∨
    (result.succeeded = true ∧ (∀ id ∈ ids, (c.secretAt now id).isSome) ∧
      ∀ id, c'.keyspace.secret? id = if id ∈ ids then none else c.secretAt now id) := by
  obtain ⟨hattempt, -, -⟩ := attempt_of_serve_eq_ok h
  obtain ⟨result', hsucceeded, heq⟩ :=
    attempt_deleting ids (hc.expire now) (secret?_eq_live hc now)
  rw [hattempt] at heq
  obtain ⟨hresult, hstate⟩ := Prod.mk.inj heq
  cases hresult
  cases hall : ids.all ({ now, secrets := c.keyspace.secret? } : Vault).has with
  | true =>
    rw [hall] at hsucceeded hstate
    refine .inr ⟨hsucceeded, fun id hid => List.all_eq_true.1 hall id hid, fun id => ?_⟩
    rw [hstate, if_pos rfl, ← secret?_expire hc now id]
    exact Keyspace.secret?_commit_deletes ids (c.expire now).keyspace id
  | false =>
    rw [hall] at hsucceeded hstate
    obtain ⟨id, hid, hnone⟩ := List.all_eq_false.1 hall
    exact .inl ⟨hsucceeded, ⟨id, hid, Option.not_isSome_iff_eq_none.1 hnone⟩, hstate⟩

theorem keepsSecrets_reading {reply : Except EngineError Transaction.Result}
    (h : c.serve user now limit (.transact (reading id)) = (reply, c')) : KeepsSecrets now c c' := by
  cases reply with
  | error e => exact keepsSecrets_of_refused hc h
  | ok result =>
    obtain ⟨hattempt, -, -⟩ := attempt_of_serve_eq_ok h
    obtain ⟨result', heq, -⟩ := attempt_reading (c := c.expire now) id (secret?_eq_live hc now)
    rw [hattempt] at heq
    rw [(Prod.mk.inj heq).2]
    exact keepsSecrets_expire hc now

/-- Whoever may read a secret is shown its value as long as it has not ended. -/
theorem exists_serve_reading (hlimit : 1 ≤ limit)
    (hauthorized : c.access.authorizeKey user .read (key id) = .ok ()) (now : Instant) :
    ∃ result, (c.serve user now limit (.transact (reading id))).1 = .ok result ∧
      ((result.outcomes.head?.bind (·.records?)).bind (·.head?)).map (·.value) =
        (c.secretAt now id).map (·.value) := by
  obtain ⟨result, hattempt, hvalue⟩ :=
    attempt_reading (c := c.expire now) id (secret?_eq_live hc now)
  have hsize : (reading id).maxBranchLength ≤ limit ∧ (reading id).conditions.length ≤ limit :=
    ⟨hlimit, Nat.zero_le limit⟩
  have hdemands : c.access.authorizeAll user (demands (reading id)) = .ok () := by
    refine AccessControl.authorizeAll_eq_ok.2 ?_
    intro demand hdemand
    obtain rfl := List.mem_singleton.1 hdemand
    exact hauthorized
  exact ⟨result, congrArg Prod.fst (serve_of_attempt hsize hdemands hattempt), hvalue⟩

end Consistent

end ClusterVault.Cluster
