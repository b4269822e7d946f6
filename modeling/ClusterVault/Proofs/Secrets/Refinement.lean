import ClusterVault.Proofs.Secrets.Requests

/-!
# Stores of secrets are an atomic vault

Calls on stores of secrets, whose requests come in any order and at any time, do what the same calls
do on a vault: each acts on the table of secrets at one instant and all at once.
-/

namespace ClusterVault.World

open SecretStore

variable {k : ClusterId} {c : Cluster} {calls : List Call} {v : Vault} {i : Nat} {call call' : Call}
  {progress' : Vault.Progress} {limit : Nat}

/-- A call is answered by the cluster that its server reaches. -/
theorem Call.request?_of_awaits {net : Network} {command : Command}
    {resume : Except EngineError command.Reply → Activity EngineError Answer}
    (h : call.rest.Awaits call.store command resume)
    (hlimit : net.limitAt? call.store.server.id k = some limit) (hc : net.clusters[k]? = some c)
    (now : Instant) :
    call.request? net now =
      some (net.setCluster k (c.serve call.store.user now limit command).2,
        call.resume command (c.serve call.store.user now limit command).1
          (resume (c.serve call.store.user now limit command).1)) := by
  obtain ⟨next, hrest, hnext⟩ := h
  rw [request?, hrest]
  simp only [Network.serve_of_limitAt? hlimit hc]
  exact congrArg (fun rest => some (net.setCluster k (c.serve call.store.user now limit command).2,
    call.resume command (c.serve call.store.user now limit command).1 rest)) (hnext _)

theorem request?_of_getElem? {w : World} (hcall : w.calls[i]? = some call) :
    w.request? i = (call.request? w.network w.now).map fun answer =>
      { w with network := answer.1, calls := w.calls.set i answer.2 } := by
  rw [request?, hcall]
  show (call.request? w.network w.now).bind _ = _
  cases call.request? w.network w.now <;> rfl

/-! ## One request -/

/-- A call goes on while the keyspace stays as it is. -/
theorem Agrees.replace_same (h : Agrees c.keyspace calls v) (hcall : calls[i]? = some call)
    (hlease : call'.lease = call.lease) (hfollows : Follows c.keyspace v.now call' progress') :
    Agrees c.keyspace (calls.set i call') { v with calls := v.calls.set i progress' } :=
  h.replace hcall h.consistent h.mirrors (le_refl _)
    (fun lease _ _ => Keyspace.Keeps.refl c.keyspace v.now lease) (.inl hlease) hfollows

/-- A call goes on that has written secrets with its lease, or with none. -/
theorem Agrees.replace_written {secrets : Secrets} {lease : Option LeaseId}
    {deadline : Option Instant} (h : Agrees c.keyspace calls v) (hcall : calls[i]? = some call)
    (hlive : ∀ id, c.keyspace.secret? id = v.live id)
    (hexist : ∀ l, lease = some l → (c.keyspace.deadline? l).isSome)
    (hdeadline : lease.bind c.keyspace.deadline? = deadline)
    (hmine : ∀ l, lease = some l → call.lease = some l)
    (hlease : call'.lease = call.lease)
    (hfollows : Follows (c.keyspace.commit (secrets.toList.map fun (id, value) =>
      .put (key id) value lease)).2 v.now call' progress') :
    Agrees (c.keyspace.commit (secrets.toList.map fun (id, value) => .put (key id) value lease)).2
      (calls.set i call')
      { v with secrets := v.overwritten secrets deadline, calls := v.calls.set i progress' } := by
  refine h.replace hcall ?_ ?_ ?_ ?_ (.inl hlease) hfollows
  · refine h.consistent.commit ?_
    intro op hop l hl
    obtain ⟨entry, -, rfl⟩ := List.mem_map.1 hop
    exact hexist l hl
  · intro id
    rw [Keyspace.secret?_commit_puts, hdeadline, hlive, Vault.overwritten, Vault.live]
    cases secrets[id]? with
    | none => exact Secret.filter_isLive_of_le (Nat.le_refl _) _
    | some value => rfl
  · simp [Keyspace.commit_eq]
  · intro l _ hother
    exact Keyspace.keeps_commit (Keyspace.secures_commit_puts secrets fun hl => hother (hmine l hl))

/-- A call goes on that has deleted secrets. -/
theorem Agrees.replace_deleted {ids : List String} (h : Agrees c.keyspace calls v)
    (hcall : calls[i]? = some call) (hlive : ∀ id, c.keyspace.secret? id = v.live id)
    (hlease : call'.lease = call.lease)
    (hfollows : Follows (c.keyspace.commit (ids.map fun id => .delete (key id))).2 v.now call'
      progress') :
    Agrees (c.keyspace.commit (ids.map fun id => .delete (key id))).2 (calls.set i call')
      { v with
        secrets := fun id => if id ∈ ids then none else v.secrets id
        calls := v.calls.set i progress' } := by
  refine h.replace hcall ?_ ?_ ?_ ?_ (.inl hlease) hfollows
  · refine h.consistent.commit (Cluster.leasesExist_of_lease?_eq_none ?_)
    rw [List.forall_mem_map]
    exact fun id _ => rfl
  · intro id
    rw [Keyspace.secret?_commit_deletes, hlive, Vault.live]
    split
    · rfl
    · exact Secret.filter_isLive_of_le (Nat.le_refl _) _
  · simp [Keyspace.commit_eq]
  · intro l _ _
    exact Keyspace.keeps_commit (Keyspace.secures_commit_deletes ids)

/-- The next request of a call is answered by the cluster as by the vault. -/
def AnswersAlike (c : Cluster) (calls : List Call) (v : Vault) (i : Nat) (call : Call) (limit : Nat)
    (progress : Vault.Progress) : Prop :=
  ∃ (command : Command) (resume : Except EngineError command.Reply → Activity EngineError Answer),
    call.rest.Awaits call.store command resume ∧
    let answer := c.serve call.store.user v.now limit command
    Agrees answer.2.keyspace (calls.set i (call.resume command answer.1 (resume answer.1)))
      { v with
        secrets := (v.advance progress).2
        calls := v.calls.set i (v.advance progress).1 }

section Request

variable (h : Agrees c.keyspace calls v) (hcall : calls[i]? = some call)
  (htrusts : c.access.Trusts call.store.user) (hlimit : call.call.size ≤ limit)

include h hcall htrusts

/-- A lease is granted up to the deadline that the vault fixes, or refused by both. -/
theorem answersAlike_granting {secrets : Secrets} {ttl : Int} (hop : call.call = .set secrets ttl)
    (hrest : call.rest = call.store.perform (.set secrets ttl)) (hsize : secrets.size ≠ 0)
    (hpos : 0 < ttl) : AnswersAlike c calls v i call limit (.waiting (.set secrets ttl)) := by
  -- the cluster looks at the clock first
  have hexpired : Agrees (c.expire v.now).keyspace calls v := h.expire
  have hserve : c.serve call.store.user v.now limit (.grantLease ttl) = _ :=
    Cluster.serve_grantLease_of_trusts htrusts hpos
  refine ⟨_, _, hrest ▸ call.store.awaits_set_granting secrets hsize hpos, ?_⟩
  dsimp only
  rw [hserve, Vault.advance, if_pos hpos]
  cases v.now.ofSecondsAfter? ttl.toNat with
  | none => exact hexpired.replace_same hcall rfl (.answered rfl ⟨ttl, rfl⟩)
  | some deadline =>
    have hks := hexpired.consistent
    have hlt : (c.expire v.now).keyspace.nextLease < (c.expire v.now).keyspace.nextLease + 1 :=
      Int.lt_succ _
    have heq : secrets.size = call.call.size := congrArg SecretCall.size hop.symm
    refine hexpired.replace hcall (hks.grantLease deadline) ?_ (le_of_lt hlt) ?_ (.inr ⟨rfl, hlt⟩) ?_
    · intro id
      rw [hks.secret?_grantLease]
      exact hexpired.mirrors id
    · exact fun lease hlease _ => Keyspace.keeps_grantLease deadline hlease
    · refine .granted (call.store.awaits_write_granted secrets _) hsize heq rfl
        hks.not_secures_nextLease ?_
      rw [Keyspace.EndsAt, Keyspace.deadline?_grantLease, if_pos rfl]

theorem answersAlike_set {secrets : Secrets} {ttl : Int} (hop : call.call = .set secrets ttl)
    (hrest : call.rest = call.store.perform (.set secrets ttl)) (hsize : secrets.size ≠ 0)
    (hlimit : call.call.size ≤ limit) (hnonpos : ¬0 < ttl) :
    AnswersAlike c calls v i call limit (.waiting (.set secrets ttl)) := by
  have hexpired : Agrees (c.expire v.now).keyspace calls v := h.expire
  have hle : secrets.size ≤ limit := by
    rw [hop] at hlimit
    exact hlimit
  have hserve : c.serve call.store.user v.now limit (.transact (writing secrets.toList none)) = _ :=
    Cluster.serve_transact_of_trusts htrusts (by rwa [Cluster.maxBranchLength_writing])
      (by rwa [Cluster.length_conditions_writing])
  refine ⟨_, _, hrest ▸ call.store.awaits_set secrets hsize hnonpos, ?_⟩
  dsimp only
  rw [hserve, Vault.advance, if_neg hnonpos]
  rcases Cluster.attempt_writing_cases hexpired.consistent h.secret?_expire none none hsize rfl rfl
    with ⟨refusal, e, hvault, hwritten, htells, hsame⟩ |
      ⟨hvault, hwritten, hexist, hdeadline, -, hkeyspace⟩
  · rw [hvault, hwritten, hsame]
    exact hexpired.replace_same hcall rfl (.answered rfl htells)
  · have hmine (l : LeaseId) (hl : none = some l) : call.lease = some l := by cases hl
    rw [hvault, hwritten, hkeyspace]
    exact hexpired.replace_written hcall h.secret?_expire hexist hdeadline hmine rfl
      (.answered rfl rfl)

theorem answersAlike_granted {secrets : Secrets} {lease : LeaseId} {deadline : Instant}
    (hrest : call.rest.Awaits call.store (.transact (writing secrets.toList (some lease)))
      (call.store.afterWriting secrets lease))
    (hlease : call.lease = some lease) (hsize : secrets.size ≠ 0) (hle : secrets.size ≤ limit)
    (hfree : ¬c.keyspace.Secures lease) (hends : c.keyspace.EndsAt v.now lease deadline) :
    AnswersAlike c calls v i call limit (.granted secrets deadline) := by
  have hexpired : Agrees (c.expire v.now).keyspace calls v := h.expire
  have hserve : c.serve call.store.user v.now limit
      (.transact (writing secrets.toList (some lease))) = _ :=
    Cluster.serve_transact_of_trusts htrusts (by rwa [Cluster.maxBranchLength_writing])
      (by rwa [Cluster.length_conditions_writing])
  -- after the look at the clock the lease is there exactly if its deadline has not passed
  have hdeadline : (some lease).bind (c.expire v.now).keyspace.deadline? =
      (some deadline).filter (v.now < ·) := by
    show (c.keyspace.expire v.now).deadline? lease = _
    rw [Keyspace.deadline?_expire]
    exact hends
  have hfree : ¬(c.expire v.now).keyspace.Secures lease := mt h.consistent.secures_expire hfree
  refine ⟨_, _, hrest, ?_⟩
  dsimp only
  rw [hserve, Vault.advance]
  rcases Cluster.attempt_writing_cases hexpired.consistent h.secret?_expire (some lease)
    (some deadline) hsize rfl hdeadline with ⟨refusal, e, hvault, hwritten, htells, hsame⟩ |
      ⟨hvault, hwritten, hexist, hdeadline, -, hkeyspace⟩
  · -- the call is answered now, though it has to revoke its lease before it comes back
    rw [hvault, hsame, afterWriting, hwritten]
    exact hexpired.replace_same hcall rfl
      (.revoking (call.store.awaits_revoke lease (.error e)) hlease hfree htells)
  · rw [hvault, hkeyspace, afterWriting, hwritten]
    exact hexpired.replace_written hcall h.secret?_expire hexist hdeadline
      (fun l hl => hl ▸ hlease) rfl (.answered rfl rfl)

theorem answersAlike_delete {ids : List String} (hop : call.call = .delete ids)
    (hrest : call.rest = call.store.perform (.delete ids)) (hsize : ids.length ≠ 0)
    (hlimit : call.call.size ≤ limit) :
    AnswersAlike c calls v i call limit (.waiting (.delete ids)) := by
  have hexpired : Agrees (c.expire v.now).keyspace calls v := h.expire
  have hle : ids.length ≤ limit := by
    rw [hop] at hlimit
    exact hlimit
  have hne : ids ≠ [] := fun heq => hsize (congrArg List.length heq)
  have hserve : c.serve call.store.user v.now limit (.transact (deleting ids)) = _ :=
    Cluster.serve_transact_of_trusts htrusts (by rwa [Cluster.maxBranchLength_deleting])
      (by rwa [Cluster.length_conditions_deleting])
  obtain ⟨result, hsucceeded, hattempt⟩ :=
    Cluster.attempt_deleting ids hexpired.consistent h.secret?_expire
  refine ⟨_, _, hrest ▸ call.store.awaits_delete ids hne, ?_⟩
  dsimp only
  rw [hserve, hattempt, Vault.advance, Vault.delete]
  simp only [hsucceeded]
  cases hall : ids.all v.has with
  | true =>
    exact hexpired.replace_deleted hcall h.secret?_expire rfl (.answered rfl rfl)
  | false =>
    exact hexpired.replace_same hcall rfl (.answered rfl rfl)

theorem answersAlike_get {id : String} (hop : call.call = .get id)
    (hrest : call.rest = call.store.perform (.get id)) (hlimit : call.call.size ≤ limit) :
    AnswersAlike c calls v i call limit (.waiting (.get id)) := by
  have hexpired : Agrees (c.expire v.now).keyspace calls v := h.expire
  have hle : 1 ≤ limit := by
    rw [hop] at hlimit
    exact hlimit
  have hserve : c.serve call.store.user v.now limit (.transact (reading id)) = _ :=
    Cluster.serve_transact_of_trusts htrusts hle (Nat.zero_le limit)
  have hlive : ∀ id, (c.expire v.now).keyspace.secret? id = v.live id := h.secret?_expire
  obtain ⟨result, hattempt, hvalue⟩ := Cluster.attempt_reading id hlive
  refine ⟨_, _, hrest ▸ call.store.awaits_get id, ?_⟩
  dsimp only
  rw [hserve, hattempt, Vault.advance]
  exact hexpired.replace_same hcall rfl (.answered rfl (congrArg Except.ok hvalue))

/-- A lease that is revoked after a failure takes no secret with it. -/
theorem answersAlike_revoking {lease : LeaseId} {answer : Answer} {verdict : Vault.Verdict}
    (hrest : call.rest.Awaits call.store (.revokeLease lease) fun _ => .done answer)
    (hlease : call.lease = some lease) (hfree : ¬c.keyspace.Secures lease)
    (htells : Vault.Tells verdict answer) :
    AnswersAlike c calls v i call limit (.answered verdict) := by
  have hexpired : Agrees (c.expire v.now).keyspace calls v := h.expire
  have hks := hexpired.consistent
  have hfree : ¬(c.expire v.now).keyspace.Secures lease := mt h.consistent.secures_expire hfree
  refine ⟨_, _, hrest, ?_⟩
  dsimp only
  rw [Cluster.keyspace_serve_revokeLease htrusts, Vault.advance]
  refine hexpired.replace hcall (hks.dropLease lease) ?_ ?_ ?_ (.inl rfl) (.answered rfl htells)
  · intro id
    rw [hks.secret?_dropLease hfree]
    exact hexpired.mirrors id
  · exact le_of_eq Keyspace.nextLease_dropLease.symm
  · intro other _ hother
    exact hks.keeps_dropLease fun heq => hother (heq ▸ hlease)

/-- Whatever request a call makes next, the cluster answers it as the vault does, unless the call is
    over. -/
theorem answersAlike_of_follows {progress : Vault.Progress}
    (hfollows : Follows c.keyspace v.now call progress) (hlimit : call.call.size ≤ limit) :
    AnswersAlike c calls v i call limit progress ∨ ∃ answer, call.rest = .done answer := by
  -- one case for each request that an activity of a store can wait with
  cases hfollows with
  | waiting hrest hsize =>
    left
    cases hop : call.call with
    | set secrets ttl =>
      rw [hop] at hrest hsize
      by_cases hpos : 0 < ttl
      · exact answersAlike_granting h hcall htrusts hop hrest hsize hpos
      · exact answersAlike_set h hcall htrusts hop hrest hsize hlimit hpos
    | delete ids =>
      rw [hop] at hrest hsize
      exact answersAlike_delete h hcall htrusts hop hrest hsize hlimit
    | get id =>
      rw [hop] at hrest
      exact answersAlike_get h hcall htrusts hop hrest hlimit
  | granted hrest hsize heq hlease hfree hends =>
    left
    exact answersAlike_granted h hcall htrusts hrest hlease hsize (heq ▸ hlimit) hfree hends
  | revoking hrest hlease hfree htells =>
    exact .inl (answersAlike_revoking h hcall htrusts hrest hlease hfree htells)
  | answered hrest htells => exact .inr ⟨_, hrest⟩

end Request

/-! ## Runs -/

/-- The world stands for the vault. -/
def Stands (k : ClusterId) (w : World) (v : Vault) : Prop :=
  w.now = v.now ∧ ∃ c, w.network.clusters[k]? = some c ∧ Agrees c.keyspace w.calls v

variable {w w' : World} {event : Vault.Event}

/-- A call that may make requests is over, or its next request is answered as by the vault. -/
theorem Stands.request (h : Stands k w v) (hadmits : w.Admits k i) :
    (∃ w', w.request? i = some w' ∧ Stands k w' (v.step (.request i))) ∨
      (w.request? i = none ∧ ∃ call answer, w.calls[i]? = some call ∧ call.rest = .done answer) := by
  obtain ⟨hnow, c, hc, hagrees⟩ := h
  obtain ⟨call, hcall, limit, hlimit, c', hc', hsize, htrusts⟩ := hadmits
  rw [Option.mem_def] at hcall hlimit hc'
  rw [hc] at hc'
  cases hc'
  have hlt : i < v.calls.length := hagrees.length_eq ▸ (List.getElem?_eq_some_iff.1 hcall).1
  have hprogress : v.calls[i]? = some v.calls[i] := List.getElem?_eq_getElem hlt
  have hfollows := hagrees.follows i call _ hcall hprogress
  -- the call is where its progress in the vault says, and so are the answers it gets
  rcases answersAlike_of_follows hagrees hcall htrusts hfollows hsize with
    ⟨command, resume, hawaits, hanswered⟩ | ⟨answer, hrest⟩
  · left
    rw [request?_of_getElem? hcall, hnow, Call.request?_of_awaits hawaits hlimit hc v.now,
      Vault.step_request hprogress]
    exact ⟨_, rfl, rfl, _, Network.clusters_setCluster hc _, hanswered⟩
  · right
    refine ⟨?_, call, answer, hcall, hrest⟩
    rw [request?_of_getElem? hcall, Call.request?, hrest]
    rfl

theorem Step.stands (hstep : Step k w event w') (h : Stands k w v) : Stands k w' (v.step event) := by
  cases hstep with
  | wait hle =>
    obtain ⟨hnow, c, hc, hagrees⟩ := h
    exact ⟨rfl, c, hc, hagrees.wait (hnow ▸ hle)⟩
  | call store call =>
    obtain ⟨hnow, c, hc, hagrees⟩ := h
    exact ⟨hnow, c, hc, hagrees.concat store call⟩
  | request hadmits hrequest =>
    rcases h.request hadmits with ⟨w'', hrequest', hstands⟩ | ⟨hnone, -⟩
    · rw [hrequest] at hrequest'
      cases hrequest'
      exact hstands
    · rw [hrequest] at hnone
      cases hnone
  | others hc hc' hforeign =>
    obtain ⟨hnow, c, hc₀, hagrees⟩ := h
    rw [hc] at hc₀
    cases hc₀
    exact ⟨hnow, _, hc', hagrees.foreign hnow hforeign⟩

theorem Run.stands {events : List Vault.Event} (h : Run k w events w') (hw : Stands k w v) :
    Stands k w' (v.after events) := by
  induction h with
  | nil => exact hw
  | snoc _ hstep ih =>
    -- the vault makes the last step after all others, as the world does
    rw [Vault.after_concat]
    exact hstep.stands ih

/-- What a call shows of its progress: while it waits it can make a request, and once it is answered
    it comes back with what the verdict says, though it may have to revoke its lease first. -/
def Call.Shows (call : Call) : Vault.Progress → Prop
  | .answered verdict => ∃ answer, Vault.Tells verdict answer ∧
    (call.rest = .done answer ∨
      ∃ lease, call.rest.Awaits call.store (.revokeLease lease) fun _ => .done answer)
  | _ => ∃ (command : Command)
    (resume : Except EngineError command.Reply → Activity EngineError Answer),
    call.rest.Awaits call.store command resume

theorem Follows.shows {ks : Keyspace} {now : Instant} {progress : Vault.Progress}
    (h : Follows ks now call progress) : call.Shows progress := by
  cases h with
  | waiting hrest hsize =>
    obtain ⟨command, resume, hawaits⟩ := call.store.awaits_perform hsize
    exact ⟨command, resume, hrest ▸ hawaits⟩
  | granted hrest => exact ⟨_, _, hrest⟩
  | revoking hrest _ _ htells => exact ⟨_, htells, .inr ⟨_, hrest⟩⟩
  | answered hrest htells => exact ⟨_, htells, .inl hrest⟩

/-- Stores of secrets refine an atomic vault. Take any run on a cluster, with any number of calls
    whose requests come in any order. Then the vault on which the same calls are made at the same
    times has the same live secrets as the cluster, and every call comes back with what it comes to in
    the vault. A call that is not over is answered whenever its server lets it make a request. -/
theorem secretStore_refines_vault {w₀ : World} {c₀ : Cluster} {events : List Vault.Event}
    (hc₀ : w₀.network.clusters[k]? = some c₀) (hreachable : c₀.Reachable) (hcalls : w₀.calls = [])
    (hrun : Run k w₀ events w) :
    let v := ({ now := w₀.now, secrets := c₀.keyspace.secret? } : Vault).after events
    w.now = v.now ∧
    (∃ c, w.network.clusters[k]? = some c ∧
      ∀ id, (c.keyspace.expire w.now).secret? id = v.live id) ∧
    w.calls.length = v.calls.length ∧
    (∀ (i : Nat) (call : Call) (progress : Vault.Progress),
      w.calls[i]? = some call → v.calls[i]? = some progress → call.Shows progress) ∧
    (∀ i, w.Admits k i → (∃ w', Step k w (.request i) w') ∨
      ∃ call answer, w.calls[i]? = some call ∧ call.rest = .done answer) := by
  intro v
  have hstart : Stands k w₀ { now := w₀.now, secrets := c₀.keyspace.secret? } := by
    refine ⟨rfl, c₀, hc₀, ?_⟩
    rw [hcalls]
    exact .start hreachable.consistent w₀.now
  have hstands : Stands k w v := hrun.stands hstart
  have hrequest (i : Nat) (hadmits : w.Admits k i) := hstands.request hadmits
  obtain ⟨hnow, c, hc, hagrees⟩ := hstands
  refine ⟨hnow, ⟨c, hc, ?_⟩, hagrees.length_eq, ?_, ?_⟩
  · intro id
    rw [hnow]
    exact hagrees.secret?_expire id
  · intro i call progress hcall hprogress
    exact (hagrees.follows i call progress hcall hprogress).shows
  · intro i hadmits
    rcases hrequest i hadmits with ⟨w', heq, -⟩ | ⟨-, hover⟩
    · exact .inl ⟨w', .request hadmits heq⟩
    · exact .inr hover

/-- A cluster of one server that lets anyone in, at the start of the clock. -/
def lone : World where
  now := 0
  network :=
    { nodes := [{ config := { name := "a", dataDir := "a" }, attachment := some ⟨0, 1⟩ }]
      clusters := [Cluster.founded []]
      ids := { draw := id } }
  calls := []

/-- A call gets a lease, another writes the secret before it, and the lease has long expired when it
    is revoked at last. The secret is kept. -/
theorem secretStore_refines_vault_late_revocation :
    ∃ w, Run 0 lone [.call (.set {("x", [1])} 5), .request 0, .call (.set {("x", [2])} 0),
        .request 1, .request 0, .wait 9000, .request 0] w ∧
      (∃ c, w.network.clusters[0]? = some c ∧
        (c.keyspace.expire w.now).secret? "x" = some ⟨[2], none⟩) ∧
      (∀ call, w.calls[0]? = some call →
        call.Shows (.answered (.error (.secretsExist ["x"])))) := by
  have hplay : (lone.play? 0 ⟨⟨0, "a"⟩, "root"⟩ [.call (.set {("x", [1])} 5), .request 0,
      .call (.set {("x", [2])} 0), .request 1, .request 0, .wait 9000, .request 0]).isSome := by
    decide +kernel
  obtain ⟨w, hw⟩ := Option.isSome_iff_exists.1 hplay
  have hrun := run_of_play? hw
  have hreachable : (Cluster.founded []).Reachable := ⟨[], [], Cluster.Run.nil _⟩
  obtain ⟨-, ⟨c, hc, hlive⟩, -, hshows, -⟩ :=
    secretStore_refines_vault rfl hreachable rfl hrun
  exact ⟨w, hrun, ⟨c, hc, hlive "x"⟩, fun call hcall => hshows 0 call _ hcall rfl⟩

end ClusterVault.World
