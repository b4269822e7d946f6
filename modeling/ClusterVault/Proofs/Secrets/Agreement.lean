import ClusterVault.Proofs.Keyspace.Expiry
import ClusterVault.Proofs.Secrets.Calls
import ClusterVault.Proofs.Secrets.Stored

/-!
# How a keyspace stands for a vault

The invariant that ties the keyspace of a cluster, the leases and the activities of the calls on it
to a vault on which the same calls are made.

## Main definitions

- `Vault.Tells`: when an answer is what a verdict says
- `World.Follows`: how the activity of a call is tied to its progress
- `World.Agrees`: the invariant
- `Keyspace.Keeps`: what a call asks of others who change the keyspace

## Design notes

Only what has not ended is compared, since a keyspace keeps what has ended until the next request
looks. For the same reason the lease of a call may be there or not once its deadline has passed. A
call that still holds a lease for itself, to write with or to revoke, relies on no secret being
attached to it. That holds because no two calls have the same lease, and no lease comes back.
-/

namespace ClusterVault

/-- Whether an answer is what a verdict says. -/
def Vault.Tells : Verdict → SecretStore.Answer → Prop
  | .ok value, answer => answer = .ok value
  | .error .leaseTooLong, answer =>
    ∃ ttl, answer = .error (.engine .creatingLease (.invalidArgument (.leaseTooLong ttl)))
  | .error .leaseExpired, answer =>
    ∃ lease, answer = .error (.engine .writing (.notFound (.lease lease)))
  | .error (.secretsExist ids), answer => answer = .error (.secretsExist ids)
  | .error .secretsMissing, answer => answer = .error .secretsMissing

namespace Keyspace

variable {ks ks' : Keyspace} {now : Instant} {lease : LeaseId}

/-- What a call asks of a change of the keyspace: no secret gets attached to its lease, and the
    lease ends when it would have ended. -/
structure Keeps (ks ks' : Keyspace) (now : Instant) (lease : LeaseId) : Prop where
  secures : ks'.Secures lease → ks.Secures lease
  endsAt : ∀ deadline, ks.EndsAt now lease deadline → ks'.EndsAt now lease deadline

theorem Keeps.of_deadline?_eq (hsecures : ks'.Secures lease → ks.Secures lease)
    (hdeadline : ks'.deadline? lease = ks.deadline? lease) : ks.Keeps ks' now lease where
  secures := hsecures
  endsAt _ h := h.of_deadline?_eq hdeadline

theorem Keeps.refl (ks : Keyspace) (now : Instant) (lease : LeaseId) : ks.Keeps ks now lease :=
  .of_deadline?_eq id rfl

theorem Consistent.keeps_expire (h : ks.Consistent) (now : Instant) (lease : LeaseId) :
    ks.Keeps (ks.expire now) now lease where
  secures := h.secures_expire
  endsAt _ hends := hends.expire (Nat.le_refl now)

theorem keeps_grantLease (d : Instant) (hlt : lease < ks.nextLease) :
    ks.Keeps (ks.grantLease d) now lease :=
  .of_deadline?_eq (fun hl => hl) (by rw [deadline?_grantLease, if_neg (ne_of_gt hlt)])

theorem Consistent.keeps_dropLease (h : ks.Consistent) {other : LeaseId} (hne : other ≠ lease) :
    ks.Keeps (ks.dropLease other) now lease :=
  .of_deadline?_eq h.secures_dropLease (by rw [deadline?_dropLease, if_neg hne])

theorem keeps_commit {ops : List Operation}
    (hsecures : (ks.commit ops).2.Secures lease → ks.Secures lease) :
    ks.Keeps (ks.commit ops).2 now lease :=
  .of_deadline?_eq hsecures (by simp [commit_eq])

end Keyspace

theorem Secret.filter_isLive_of_le {now now' : Instant} (hle : now ≤ now') (kept : Option Secret) :
    (kept.filter (·.isLive now)).filter (·.isLive now') = kept.filter (·.isLive now') := by
  have hlive : (fun s : Secret => s.isLive now && s.isLive now') = fun s => s.isLive now' := by
    funext s
    obtain ⟨value, deadline⟩ := s
    cases deadline with
    | none => rfl
    | some d =>
      rw [Bool.eq_iff_iff, Bool.and_eq_true]
      simp only [Secret.isLive, Option.all_some, decide_eq_true_iff]
      exact ⟨And.right, fun hlt => ⟨Nat.lt_of_le_of_lt hle hlt, hlt⟩⟩
  rw [Option.filter_filter, hlive]

namespace World

variable {ks ks' : Keyspace} {now now' : Instant} {call : Call} {progress : Vault.Progress}

/-- How the activity of a call is tied to its progress. -/
inductive Follows (ks : Keyspace) (now : Instant) (call : Call) : Vault.Progress → Prop
  | waiting (hrest : call.rest = call.store.perform call.call) (hsize : call.call.size ≠ 0) :
    Follows ks now call (.waiting call.call)
  | granted {secrets : Secrets} {lease : LeaseId} {deadline : Instant}
    (hrest : call.rest.Awaits call.store (.transact (SecretStore.writing secrets.toList (some lease)))
      (call.store.afterWriting secrets lease))
    (hsize : secrets.size ≠ 0) (heq : secrets.size = call.call.size)
    (hlease : call.lease = some lease)
    (hfree : ¬ks.Secures lease) (hends : ks.EndsAt now lease deadline) :
    Follows ks now call (.granted secrets deadline)
  | revoking {lease : LeaseId} {answer : SecretStore.Answer} {verdict : Vault.Verdict}
    (hrest : call.rest.Awaits call.store (.revokeLease lease) fun _ => .done answer)
    (hlease : call.lease = some lease) (hfree : ¬ks.Secures lease)
    (htells : Vault.Tells verdict answer) : Follows ks now call (.answered verdict)
  | answered {answer : SecretStore.Answer} {verdict : Vault.Verdict}
    (hrest : call.rest = .done answer) (htells : Vault.Tells verdict answer) :
    Follows ks now call (.answered verdict)

theorem Follows.of_keeps (h : Follows ks now call progress)
    (hkeeps : ∀ lease, call.lease = some lease → ks.Keeps ks' now lease) :
    Follows ks' now call progress := by
  cases h with
  | waiting hrest hsize => exact .waiting hrest hsize
  | granted hrest hsize heq hlease hfree hends =>
    have hkeep := hkeeps _ hlease
    exact .granted hrest hsize heq hlease (mt hkeep.secures hfree) (hkeep.endsAt _ hends)
  | revoking hrest hlease hfree htells =>
    exact .revoking hrest hlease (mt (hkeeps _ hlease).secures hfree) htells
  | answered hrest htells => exact .answered hrest htells

theorem Follows.mono (h : Follows ks now call progress) (hle : now ≤ now') :
    Follows ks now' call progress := by
  cases h with
  | waiting hrest hsize => exact .waiting hrest hsize
  | granted hrest hsize heq hlease hfree hends =>
    exact .granted hrest hsize heq hlease hfree (hends.mono hle)
  | revoking hrest hlease hfree htells => exact .revoking hrest hlease hfree htells
  | answered hrest htells => exact .answered hrest htells

/-- The keyspace and the calls stand for the vault. -/
structure Agrees (ks : Keyspace) (calls : List Call) (v : Vault) : Prop where
  consistent : ks.Consistent
  /-- What is kept and has not ended is the same. -/
  mirrors : ∀ id, (ks.secret? id).filter (·.isLive v.now) = v.live id
  length_eq : calls.length = v.calls.length
  follows : ∀ (i : Nat) (call : Call) (progress : Vault.Progress),
    calls[i]? = some call → v.calls[i]? = some progress → Follows ks v.now call progress
  lease_lt : ∀ (i : Nat) (call : Call) (lease : LeaseId),
    calls[i]? = some call → call.lease = some lease → lease < ks.nextLease
  lease_inj : ∀ (i j : Nat) (call call' : Call) (lease : LeaseId),
    calls[i]? = some call → calls[j]? = some call' →
    call.lease = some lease → call'.lease = some lease → i = j

theorem getElem?_set_cases {α : Type} {l : List α} {i j : Nat} {a b : α}
    (h : (l.set i a)[j]? = some b) : (j = i ∧ b = a) ∨ (j ≠ i ∧ l[j]? = some b) := by
  rw [List.getElem?_set] at h
  by_cases hij : i = j
  · rw [if_pos hij] at h
    split at h
    · exact .inl ⟨hij.symm, (Option.some.inj h).symm⟩
    · cases h
  · rw [if_neg hij] at h
    exact .inr ⟨Ne.symm hij, h⟩

variable {calls : List Call} {v : Vault} {i : Nat}

/-- Before any call a keyspace stands for the vault of its secrets. -/
theorem Agrees.start (h : ks.Consistent) (now : Instant) :
    Agrees ks [] { now, secrets := ks.secret? } where
  consistent := h
  mirrors id := rfl
  length_eq := rfl
  follows i call progress hcall := by cases hcall
  lease_lt i call lease hcall := by cases hcall
  lease_inj i j call call' lease hcall := by cases hcall

/-- A change of the keyspace that the calls need not know of. -/
theorem Agrees.of_keeps (h : Agrees ks calls v) (hks' : ks'.Consistent)
    (hmirrors : ∀ id, (ks'.secret? id).filter (·.isLive v.now) =
      (ks.secret? id).filter (·.isLive v.now))
    (hnext : ks.nextLease ≤ ks'.nextLease)
    (hkeeps : ∀ call ∈ calls, ∀ lease, call.lease = some lease → ks.Keeps ks' v.now lease) :
    Agrees ks' calls v where
  consistent := hks'
  mirrors id := (hmirrors id).trans (h.mirrors id)
  length_eq := h.length_eq
  follows i call progress hcall hprogress :=
    (h.follows i call progress hcall hprogress).of_keeps
      (hkeeps call (List.mem_of_getElem? hcall))
  lease_lt i call lease hcall hlease := lt_of_lt_of_le (h.lease_lt i call lease hcall hlease) hnext
  lease_inj := h.lease_inj

/-- A change of the keyspace by a call, which may have got a new lease with it. -/
theorem Agrees.replace (h : Agrees ks calls v) {call' : Call} {progress' : Vault.Progress}
    {secrets' : String → Option Secret} (hcall : calls[i]? = some call) (hks' : ks'.Consistent)
    (hmirrors : ∀ id, (ks'.secret? id).filter (·.isLive v.now) =
      (secrets' id).filter (·.isLive v.now))
    (hnext : ks.nextLease ≤ ks'.nextLease)
    (hkeeps : ∀ lease, lease < ks.nextLease → call.lease ≠ some lease → ks.Keeps ks' v.now lease)
    (hlease : call'.lease = call.lease ∨
      (call'.lease = some ks.nextLease ∧ ks.nextLease < ks'.nextLease))
    (hfollows : Follows ks' v.now call' progress') :
    Agrees ks' (calls.set i call')
      { v with secrets := secrets', calls := v.calls.set i progress' } where
  consistent := hks'
  mirrors := hmirrors
  length_eq := by
    rw [List.length_set, List.length_set, h.length_eq]
  follows j other progress hother hprogress := by
    rcases getElem?_set_cases hother with ⟨rfl, rfl⟩ | ⟨hne, hother⟩
    · rcases getElem?_set_cases hprogress with ⟨-, rfl⟩ | ⟨hne, -⟩
      · exact hfollows
      · exact absurd rfl hne
    · rcases getElem?_set_cases hprogress with ⟨heq, -⟩ | ⟨-, hprogress⟩
      · exact absurd heq hne
      · -- another call has another lease, and so it is not disturbed
        refine (h.follows j other progress hother hprogress).of_keeps ?_
        intro lease hlease'
        refine hkeeps lease (h.lease_lt j other lease hother hlease') ?_
        intro hmine
        exact hne (h.lease_inj j i other call lease hother hcall hlease' hmine)
  lease_lt j other lease hother hother' := by
    rcases getElem?_set_cases hother with ⟨rfl, rfl⟩ | ⟨-, hother⟩
    · rcases hlease with hsame | ⟨hnew, hlt⟩
      · exact lt_of_lt_of_le (h.lease_lt j call lease hcall (hsame ▸ hother')) hnext
      · rw [hnew] at hother'
        exact Option.some.inj hother' ▸ hlt
    · exact lt_of_lt_of_le (h.lease_lt j other lease hother hother') hnext
  lease_inj := by
    -- a lease that the call has now is the one it had, or one that no other call has
    have hmine (j : Nat) (other : Call) (lease : LeaseId) (hother : calls[j]? = some other)
        (hother' : other.lease = some lease) (hlease' : call'.lease = some lease) : i = j := by
      rcases hlease with hsame | ⟨hnew, -⟩
      · exact h.lease_inj i j call other lease hcall hother (hsame ▸ hlease') hother'
      · rw [hnew] at hlease'
        have hlt := h.lease_lt j other lease hother hother'
        rw [← Option.some.inj hlease'] at hlt
        exact absurd hlt (lt_irrefl _)
    intro j j' a b lease ha hb ha' hb'
    rcases getElem?_set_cases ha with ⟨rfl, rfl⟩ | ⟨-, hold⟩
    · rcases getElem?_set_cases hb with ⟨rfl, -⟩ | ⟨-, hold⟩
      · rfl
      · exact hmine j' b lease hold hb' ha'
    · rcases getElem?_set_cases hb with ⟨rfl, rfl⟩ | ⟨-, hold'⟩
      · exact (hmine j a lease hold ha' hb').symm
      · exact h.lease_inj j j' a b lease hold hold' ha' hb'

/-! ## What happens beside the calls -/

theorem Agrees.expire (h : Agrees ks calls v) : Agrees (ks.expire v.now) calls v := by
  refine h.of_keeps (h.consistent.expire v.now) ?_ ?_ ?_
  · intro id
    rw [h.consistent.secret?_expire, Secret.filter_isLive_of_le (Nat.le_refl _)]
  · rw [Keyspace.nextLease_expire]
  · exact fun call _ lease _ => h.consistent.keeps_expire v.now lease

/-- After a look at the clock the keyspace has exactly what is live. -/
theorem Agrees.secret?_expire (h : Agrees ks calls v) (id : String) :
    (ks.expire v.now).secret? id = v.live id := by
  rw [h.consistent.secret?_expire, h.mirrors]

theorem Agrees.wait (h : Agrees ks calls v) (hle : v.now ≤ now') :
    Agrees ks calls { v with now := now' } where
  consistent := h.consistent
  mirrors id := by
    have hlive : ({ v with now := now' } : Vault).live id =
        (v.live id).filter (·.isLive now') := (Secret.filter_isLive_of_le hle _).symm
    rw [hlive, ← h.mirrors, Secret.filter_isLive_of_le hle]
  length_eq := h.length_eq
  follows i call progress hcall hprogress := (h.follows i call progress hcall hprogress).mono hle
  lease_lt := h.lease_lt
  lease_inj := h.lease_inj

theorem getElem?_concat_cases {α : Type} {l : List α} {i : Nat} {a b : α}
    (h : (l ++ [a])[i]? = some b) : l[i]? = some b ∨ (i = l.length ∧ b = a) := by
  rcases Nat.lt_trichotomy i l.length with hlt | rfl | hgt
  · rw [List.getElem?_append_left hlt] at h
    exact .inl h
  · rw [List.getElem?_concat_length] at h
    exact .inr ⟨rfl, (Option.some.inj h).symm⟩
  · rw [List.getElem?_eq_none (by simp; omega)] at h
    cases h

theorem follows_start (ks : Keyspace) (now : Instant) (store : SecretStore) (call : SecretCall) :
    Follows ks now (.start store call) (.start call) := by
  rw [Vault.Progress.start]
  split
  · next hsize => exact .answered (store.perform_of_size_eq_zero hsize) rfl
  · next hsize => exact .waiting rfl hsize

theorem Agrees.concat (h : Agrees ks calls v) (store : SecretStore) (call : SecretCall) :
    Agrees ks (calls ++ [.start store call]) (v.step (.call call)) where
  consistent := h.consistent
  mirrors := h.mirrors
  length_eq := by
    show (calls ++ [_]).length = (v.calls ++ [_]).length
    rw [List.length_append, List.length_append, h.length_eq]
    rfl
  follows i other progress hother hprogress := by
    have hlength := h.length_eq
    rcases getElem?_concat_cases hother with hold | ⟨rfl, rfl⟩
    · rcases getElem?_concat_cases hprogress with hold' | ⟨rfl, -⟩
      · exact h.follows i other progress hold hold'
      · rw [List.getElem?_eq_none (by omega)] at hold
        cases hold
    · rcases getElem?_concat_cases hprogress with hold' | ⟨-, rfl⟩
      · rw [List.getElem?_eq_none (by omega)] at hold'
        cases hold'
      · exact follows_start ks v.now store call
  lease_lt i other lease hother hlease := by
    rcases getElem?_concat_cases hother with hold | ⟨-, rfl⟩
    · exact h.lease_lt i other lease hold hlease
    · cases hlease
  lease_inj i j a b lease ha hb ha' hb' := by
    rcases getElem?_concat_cases ha with hold | ⟨-, rfl⟩
    · rcases getElem?_concat_cases hb with hold' | ⟨-, rfl⟩
      · exact h.lease_inj i j a b lease hold hold' ha' hb'
      · cases hb'
    · cases ha'

/-- Others who leave the secrets alone go unnoticed. -/
theorem Agrees.commit (h : Agrees ks calls v) {ops : List Operation} (hexist : ks.LeasesExist ops)
    (hleaves : ∀ op ∈ ops, ∀ id, op.effectOn? (SecretStore.key id) = none) :
    Agrees (ks.commit ops).2 calls v := by
  have hnone (id : String) : Operation.lastEffectOn? (SecretStore.key id) ops = none :=
    Operation.lastEffectOn?_eq_none.2 fun op hop => hleaves op hop id
  refine h.of_keeps (h.consistent.commit hexist) ?_ ?_ ?_
  · intro id
    rw [Keyspace.secret?_commit, hnone]
    rfl
  · simp [Keyspace.commit_eq]
  · intro call _ lease _
    refine Keyspace.keeps_commit ?_
    rintro ⟨id, hid⟩
    rw [Keyspace.leaseOf_commit, hnone, Option.getD_none, ← Keyspace.leaseOf_eq_content?] at hid
    exact ⟨id, hid⟩

theorem Agrees.grantLease (h : Agrees ks calls v) (d : Instant) :
    Agrees (ks.grantLease d) calls v := by
  refine h.of_keeps (h.consistent.grantLease d) ?_ (le_of_lt (Int.lt_succ _)) ?_
  · intro id
    rw [h.consistent.secret?_grantLease]
  · intro call hcall lease hlease
    obtain ⟨i, hi⟩ := List.getElem?_of_mem hcall
    exact Keyspace.keeps_grantLease d (h.lease_lt i call lease hi hlease)

theorem Agrees.dropLease (h : Agrees ks calls v) {lease : LeaseId} (hfree : ¬ks.Secures lease)
    (hunused : ∀ call ∈ calls, call.lease ≠ some lease) : Agrees (ks.dropLease lease) calls v := by
  refine h.of_keeps (h.consistent.dropLease lease) ?_ ?_ ?_
  · intro id
    rw [h.consistent.secret?_dropLease hfree]
  · rw [Keyspace.nextLease_dropLease]
  · intro call hcall other hother
    exact h.consistent.keeps_dropLease fun heq => hunused call hcall (heq ▸ hother)

theorem Agrees.foreign {w : World} {c c' : Cluster} (h : Agrees c.keyspace w.calls v)
    (hnow : w.now = v.now) (hforeign : w.Foreign c c') : Agrees c'.keyspace w.calls v := by
  have hexpired := h.expire
  rw [← hnow] at hexpired
  cases hforeign with
  | nothing => exact h
  | register members => exact h
  | manage user ids command =>
    rw [Cluster.keyspace_manage]
    exact hexpired
  | serve user limit command hleaves =>
    cases hhandle : (c.expire w.now).handle user w.now limit command with
    | error e =>
      rw [Cluster.serve_of_handle_eq_error hhandle]
      exact hexpired
    | ok answer =>
      obtain ⟨reply, c'⟩ := answer
      rw [Cluster.serve_of_handle_eq_ok hhandle]
      -- a transaction, a new lease, the end of a lease, or nothing of that kind
      rcases Cluster.handle_cases hhandle with ⟨t, rfl, hexist, heq⟩ | ⟨ttl, deadline, rfl, heq⟩ |
        ⟨lease, rfl, heq⟩ | ⟨-, heq⟩
      · rw [heq]
        refine hexpired.commit hexist ?_
        exact fun op hop => hleaves op (Cluster.mem_of_mem_branch hop)
      · rw [heq]
        exact hexpired.grantLease deadline
      · rw [heq]
        have hnotused : ¬w.UsesLease c.keyspace lease := hleaves
        refine hexpired.dropLease ?_ ?_
        · exact fun hsecures => hnotused (.inr (h.consistent.secures_expire hsecures))
        · exact fun call hcall hlease => hnotused (.inl ⟨call, hcall, hlease⟩)
      · rw [heq]
        exact hexpired

end World

end ClusterVault
