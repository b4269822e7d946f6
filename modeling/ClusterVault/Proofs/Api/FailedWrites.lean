import ClusterVault.Proofs.Api.Performing
import ClusterVault.Proofs.Secrets.Undone
import ClusterVault.Proofs.Text.ByteOrder

/-!
# Writes that fail

A write that fails leaves no trace, if nobody else acts in between: everything is as it was, up to
leases that have run out by themselves, and at most the number of a lease is spent. It fails because
secrets are there already, which are all named then, or because the engine refuses a request.

## Main definitions

- `SecretStore.Course`: the requests of a write, and what it answers
- `SecretStore.RefusesLease`, `SecretStore.RefusesWrite`: why the engine refuses a write
- `SecretStore.Settles`: what a write comes to that nobody interferes with

## Main statements

- `SecretStore.course_of_run`: which requests a write makes
- `SecretStore.failed_write_leaves_no_trace`: a write that fails changes nothing, and why it fails
-/

namespace ClusterVault

/-- The cluster of a server serves a request, wherever else the network stands. -/
theorem Answer.Replies.serve {a : Answer} {site : Site} {s : SecretStore} {command : Command}
    {reply : Except EngineError command.Reply} {net : Network} {k : ClusterId} {limit : Nat}
    {c c₀ : Cluster} (h : a.Replies s command reply) (hgiven : a.Given site)
    (hlimit : net.limitAt? s.server.id k = some limit) (hc₀ : net.clusters[k]? = some c₀)
    (hbefore : a.before.network site.servers = net.setCluster k c) :
    ∃ c', c.serve s.user a.now limit command = (reply, c') ∧
      a.after.network site.servers = net.setCluster k c' := by
  obtain ⟨before, now, after, rfl⟩ := h
  have hserve := Deployment.serve_of_given hgiven
  dsimp only at hbefore ⊢
  rw [hbefore, Network.serve_of_limitAt? (by exact hlimit) (Network.clusters_setCluster hc₀ c),
    Network.setCluster_setCluster] at hserve
  obtain ⟨hafter, hreply⟩ := Prod.mk.inj hserve
  exact ⟨_, Prod.ext hreply rfl, hafter.symm⟩

namespace SecretStore

open SecretsApi (Order)
open Undertaking (Run)

variable {site : Site} {foreign : String → Network → Network.Event → Prop} {s : SecretStore}
  {d : Deployment} {v : Undertaking Answer} {answer : Answer} {secrets : Secrets} {ttl : Int}
  {net : Network} {k : ClusterId} {limit : Nat} {c : Cluster}

/-- The requests of a write that are answered in turn, and what the write answers. -/
inductive Course (s : SecretStore) (secrets : Secrets) (ttl : Int) :
    List ClusterVault.Answer → Answer → Prop
  | direct {a : ClusterVault.Answer} {reply : Except EngineError Transaction.Result}
    (hnonpos : ¬0 < ttl) (hwrite : a.Replies s (.transact (writing secrets.toList none)) reply) :
    Course s secrets ttl [a] ((written secrets.toList reply).map fun _ => none)
  | refused {g : ClusterVault.Answer} {cause : EngineError} (hpos : 0 < ttl)
    (hgrant : g.Replies s (.grantLease ttl) (.error cause)) :
    Course s secrets ttl [g] (.error (.engine .creatingLease cause))
  | granted {g a : ClusterVault.Answer} {l : LeaseId}
    {reply : Except EngineError Transaction.Result} (hpos : 0 < ttl)
    (hgrant : g.Replies s (.grantLease ttl) (.ok l))
    (hwrite : a.Replies s (.transact (writing secrets.toList (some l))) reply)
    (hwritten : written secrets.toList reply = .ok ()) : Course s secrets ttl [g, a] (.ok none)
  | revoked {g a r : ClusterVault.Answer} {l : LeaseId}
    {reply : Except EngineError Transaction.Result} {ended : Except EngineError Unit}
    {e : NodeError EngineError} (hpos : 0 < ttl)
    (hgrant : g.Replies s (.grantLease ttl) (.ok l))
    (hwrite : a.Replies s (.transact (writing secrets.toList (some l))) reply)
    (hwritten : written secrets.toList reply = .error e)
    (hrevoke : r.Replies s (.revokeLease l) ended) : Course s secrets ttl [g, a, r] (.error e)

/-- The engine refuses a lease for a write at an instant. -/
def RefusesLease (c : Cluster) (user : String) (ttl : Int) (now : Instant) : Prop :=
  0 < ttl ∧ (c.access.authenticate user ≠ .ok () ∨ now.ofSecondsAfter? ttl.toNat = none)

/-- The engine refuses the transaction of a write: there are more secrets than a server takes at once,
    or one of them may not be looked for or written. -/
def RefusesWrite (c : Cluster) (user : String) (limit : Nat) (secrets : Secrets) : Prop :=
  limit < secrets.size ∨
    ∃ id ∈ secrets, ∃ access, c.access.authorizeKey user access (key id) ≠ .ok ()

/-- What a write comes to, from its first request to its last, that nobody interferes with. -/
structure Settles (s : SecretStore) (secrets : Secrets) (ttl : Int) (limit : Nat) (c c' : Cluster)
    (log : List ClusterVault.Answer) (first last : Instant) (answer : Answer) : Prop where
  /-- A failure leaves no trace, unless the number of a lease was spent. -/
  trace : ∀ e, answer = .error e → ∃ next, c' = (c.expire last).countFrom next ∧
    (next = c.keyspace.nextLease ∨ next = c.keyspace.nextLease + 1)
  /-- A failure is a conflict that the transaction has found, or comes from the engine. -/
  failure : ∀ e, answer = .error e → (∃ step cause, e = .engine step cause) ∨
    ∃ ids, e = .secretsExist ids ∧ ∃ a ∈ log, (Order.write secrets ttl).Ran s a
  /-- A transaction that finds secrets names all of them, once and in order. -/
  conflict : ∀ a ∈ log, (Order.write secrets ttl).Ran s a →
    (∃ id ∈ secrets, (c.expire a.now).keyspace.records.contains (key id)) →
    ∃ ids, answer = .error (.secretsExist ids) ∧
      (ids.Pairwise fun id id' => Bytes.ofString id < Bytes.ofString id') ∧
      ∀ id, id ∈ ids ↔ id ∈ secrets ∧ (c.expire a.now).keyspace.records.contains (key id)
  /-- The engine is the cause if and only if it refuses a lease or the transaction, as long as a lease
      does not run out during the write. -/
  engine : (∀ a ∈ log, ∀ deadline, 0 < ttl → first.ofSecondsAfter? ttl.toNat = some deadline →
      a.now < deadline) →
    ((∃ step cause, answer = .error (.engine step cause)) ↔
      RefusesLease c s.user ttl first ∨ RefusesWrite c s.user limit secrets)

theorem course_of_run (hsize : secrets.size ≠ 0)
    (hrun : Run site foreign ⟨d, s.perform (.set secrets ttl), []⟩ v)
    (hend : v.rest = .done answer) :
    Course s secrets ttl v.log answer ∧ ∀ a ∈ v.log, a.Given site := by
  by_cases hpos : 0 < ttl
  · obtain ⟨g, lease, -, hggiven, hgrant, hrest⟩ :=
      hrun.of_awaits (s.awaits_set_granting secrets hsize hpos) hend
    cases lease with
    | error cause =>
      obtain ⟨hdone, hlog⟩ := hrest.of_done rfl
      cases hend.symm.trans hdone
      rw [hlog]
      exact ⟨.refused hpos hgrant, List.forall_mem_singleton.2 hggiven⟩
    | ok l =>
      obtain ⟨a, reply, -, hagiven, hwrite, hlater⟩ :=
        hrest.of_awaits (s.awaits_write_granted secrets l) hend
      unfold afterWriting at hlater
      cases hwritten : written secrets.toList reply with
      | ok u =>
        rw [hwritten] at hlater
        obtain ⟨hdone, hlog⟩ := hlater.of_done rfl
        cases hend.symm.trans hdone
        rw [hlog]
        exact ⟨.granted hpos hgrant hwrite hwritten,
          List.forall_mem_cons.2 ⟨hggiven, List.forall_mem_singleton.2 hagiven⟩⟩
      | error e =>
        rw [hwritten] at hlater
        obtain ⟨r, ended, -, hrgiven, hrevoke, hlast⟩ :=
          hlater.of_awaits (s.awaits_revoke l (.error e)) hend
        obtain ⟨hdone, hlog⟩ := hlast.of_done rfl
        cases hend.symm.trans hdone
        rw [hlog]
        exact ⟨.revoked hpos hgrant hwrite hwritten hrevoke, List.forall_mem_cons.2
          ⟨hggiven, List.forall_mem_cons.2 ⟨hagiven, List.forall_mem_singleton.2 hrgiven⟩⟩⟩
  · obtain ⟨a, reply, -, hgiven, hwrite, hrest⟩ :=
      hrun.of_awaits (s.awaits_set secrets hsize hpos) hend
    obtain ⟨hdone, hlog⟩ := hrest.of_done rfl
    cases hend.symm.trans hdone
    rw [hlog]
    exact ⟨.direct hpos hwrite, List.forall_mem_singleton.2 hgiven⟩

/-! ## The transaction -/

section Transaction

variable {c₁ c₂ : Cluster} {now : Instant} {lease : Option LeaseId}
  {reply : Except EngineError Transaction.Result}

/-- The transaction is refused, or finds secrets that are there already, or writes all. -/
theorem write_cases (hc : c₁.keyspace.Consistent) (hsize : secrets.size ≠ 0)
    (h : c₁.serve s.user now limit (.transact (writing secrets.toList lease)) = (reply, c₂)) :
    (∃ e, reply = .error e ∧ written secrets.toList reply = .error (.engine .writing e) ∧
      c₂ = c₁.expire now) ∨
    (∃ result found, reply = .ok result ∧
      found = secrets.keys.filter (fun id => (c₁.secretAt now id).isSome) ∧
      written secrets.toList reply = .error (.secretsExist found) ∧ c₂ = c₁.expire now) ∨
    ∃ result, reply = .ok result ∧ (∀ id ∈ secrets, c₁.secretAt now id = none) ∧
      written secrets.toList reply = .ok () := by
  cases reply with
  | error e => exact .inl ⟨e, rfl, rfl, Cluster.eq_expire_of_serve_eq_error h⟩
  | ok result =>
    rcases Cluster.writing_cases hc hsize h with ⟨found, hfound, -, hwritten, hsame⟩ |
      ⟨hnone, hwritten, -, -⟩
    · exact .inr (.inl ⟨result, found, rfl, hfound, hwritten, hsame⟩)
    · exact .inr (.inr ⟨result, rfl, hnone, hwritten⟩)

/-- The secrets that a transaction finds are listed once and in order. -/
theorem found_spec (hc : c.keyspace.Consistent) (secrets : Secrets) (now : Instant) :
    ((secrets.keys.filter fun id => (c.secretAt now id).isSome).Pairwise
      fun id id' => Bytes.ofString id < Bytes.ofString id') ∧
    ∀ id, id ∈ secrets.keys.filter (fun id => (c.secretAt now id).isSome) ↔
      id ∈ secrets ∧ (c.expire now).keyspace.records.contains (key id) := by
  refine ⟨(Bytes.pairwise_ofString_keys secrets).filter _, fun id => ?_⟩
  rw [List.mem_filter, Std.ExtTreeMap.mem_keys, ← Cluster.secret?_expire hc,
    Keyspace.isSome_secret?]

/-- The transaction is refused exactly if it is refused in every state with these rights. -/
theorem error_iff_refusesWrite (haccess : c₁.access = c.access)
    (hserve : c₁.serve s.user now limit (.transact (writing secrets.toList lease)) = (reply, c₂))
    (hrunning : ∀ l, lease = some l → ((c₁.expire now).keyspace.deadline? l).isSome) :
    (∃ e, reply = .error e) ↔ RefusesWrite c s.user limit secrets := by
  have hiff : (∃ e, (c₁.serve s.user now limit
        (.transact (writing secrets.toList lease))).1 = .error e) ↔
      RefusesWrite c₁ s.user limit secrets := Cluster.serve_writing_refused_iff hrunning
  rw [hserve, RefusesWrite, haccess] at hiff
  exact hiff

/-- What a write comes to whose transaction was made. The lease that it was made with is there, unless
    it has run out. -/
theorem Settles.of_write {a : ClusterVault.Answer} {log : List ClusterVault.Answer}
    {first last : Instant} {c' : Cluster} (hc : c.keyspace.Consistent)
    (hc₁ : c₁.keyspace.Consistent) (hsize : secrets.size ≠ 0)
    (hwrite : a.Replies s (.transact (writing secrets.toList lease)) reply)
    (hserve : c₁.serve s.user a.now limit (.transact (writing secrets.toList lease)) = (reply, c₂))
    (haccess : c₁.access = c.access) (hkept : ∀ id, c₁.secretAt a.now id = c.secretAt a.now id)
    (hmem : a ∈ log) (honce : ∀ b ∈ log, (Order.write secrets ttl).Ran s b → b = a)
    (hgranted : ¬RefusesLease c s.user ttl first)
    (hlease : (∀ b ∈ log, ∀ deadline, 0 < ttl → first.ofSecondsAfter? ttl.toNat = some deadline →
      b.now < deadline) → ∀ l, lease = some l → ((c₁.expire a.now).keyspace.deadline? l).isSome)
    (htrace : ∀ e, written secrets.toList reply = .error e → c₂ = c₁.expire a.now →
      ∃ next, c' = (c.expire last).countFrom next ∧
        (next = c.keyspace.nextLease ∨ next = c.keyspace.nextLease + 1)) :
    Settles s secrets ttl limit c c' log first last
      ((written secrets.toList reply).map fun _ => none) := by
  have hsecrets : c₁.secretAt a.now = c.secretAt a.now := funext hkept
  have hrefused := error_iff_refusesWrite haccess hserve
  have hclear {result : Transaction.Result} (hok : reply = .ok result)
      (hrunning : ∀ l, lease = some l → ((c₁.expire a.now).keyspace.deadline? l).isSome) :
      ¬(RefusesLease c s.user ttl first ∨ RefusesWrite c s.user limit secrets) := by
    rintro (hungranted | hunwritten)
    · exact hgranted hungranted
    · obtain ⟨e, he⟩ := (hrefused hrunning).2 hunwritten
      cases hok.symm.trans he
  rcases write_cases hc₁ hsize hserve with ⟨e, hreply, hwritten, hsame⟩ |
    ⟨result, found, hreply, hfound, hwritten, hsame⟩ | ⟨result, hreply, hnone, hwritten⟩
  · rw [hwritten]
    refine ⟨fun _ _ => htrace _ hwritten hsame, ?_, ?_, ?_⟩
    · rintro _ ⟨⟩
      exact .inl ⟨_, _, rfl⟩
    · intro b hb hran
      obtain rfl := honce b hb hran
      obtain ⟨_, _, hreplies⟩ := hran
      cases hreply.symm.trans (hwrite.transact_unique hreplies)
    · intro hrunning
      exact ⟨fun _ => .inr ((hrefused (hlease hrunning)).1 ⟨e, hreply⟩), fun _ => ⟨_, _, rfl⟩⟩
  · rw [hsecrets] at hfound
    obtain ⟨hordered, hexact⟩ := found_spec hc secrets a.now
    rw [hwritten]
    refine ⟨fun _ _ => htrace _ hwritten hsame, ?_, ?_, ?_⟩
    · rintro _ ⟨⟩
      exact .inr ⟨_, rfl, a, hmem, lease, result, hreply ▸ hwrite⟩
    · intro b hb hran _
      obtain rfl := honce b hb hran
      exact ⟨found, rfl, hfound ▸ hordered, hfound ▸ hexact⟩
    · intro hrunning
      refine ⟨?_, fun h => absurd h (hclear hreply (hlease hrunning))⟩
      rintro ⟨_, _, ⟨⟩⟩
  · rw [hwritten]
    refine ⟨?_, ?_, ?_, ?_⟩
    · rintro _ ⟨⟩
    · rintro _ ⟨⟩
    · intro b hb hran hthere
      obtain rfl := honce b hb hran
      obtain ⟨id, hid, hcontains⟩ := hthere
      have hgone := hnone id hid
      rw [hkept] at hgone
      rw [← Keyspace.isSome_secret?, Cluster.secret?_expire hc, hgone] at hcontains
      cases hcontains
    · intro hrunning
      refine ⟨?_, fun h => absurd h (hclear hreply (hlease hrunning))⟩
      rintro ⟨_, _, ⟨⟩⟩

end Transaction

/-! ## All requests of a write -/

/-- A write without a lease is one transaction. -/
theorem Settles.of_direct {a : ClusterVault.Answer}
    {reply : Except EngineError Transaction.Result} (hc : c.keyspace.Consistent)
    (hsize : secrets.size ≠ 0) (hnonpos : ¬0 < ttl)
    (hwrite : a.Replies s (.transact (writing secrets.toList none)) reply) {c' : Cluster}
    (hserve : c.serve s.user a.now limit (.transact (writing secrets.toList none)) = (reply, c')) :
    Settles s secrets ttl limit c c' [a] a.now a.now
      ((written secrets.toList reply).map fun _ => none) := by
  refine .of_write hc hc hsize hwrite hserve rfl (fun _ => rfl) (List.mem_singleton_self a)
    (fun b hb _ => List.mem_singleton.1 hb) (fun h => hnonpos h.1) (fun _ => nofun) ?_
  intro e _ hsame
  exact ⟨c.keyspace.nextLease, hsame.trans (c.countFrom_nextLease a.now).symm, .inl rfl⟩

/-- A write whose lease is refused has changed nothing. -/
theorem Settles.of_refused {g : ClusterVault.Answer} {cause : EngineError} {c' : Cluster}
    (hpos : 0 < ttl) (hgrant : g.Replies s (.grantLease ttl) (.error cause))
    (hserve : c.serve s.user g.now limit (.grantLease ttl) = (.error cause, c')) :
    Settles s secrets ttl limit c c' [g] g.now g.now (.error (.engine .creatingLease cause)) := by
  rcases Cluster.serve_grantLease_cases hpos c s.user g.now limit with
    ⟨-, _, -, hok⟩ | ⟨hwhy, e, herror⟩
  · cases hserve.symm.trans hok
  · cases hserve.symm.trans herror
    refine ⟨fun _ _ => ⟨_, (c.countFrom_nextLease g.now).symm, .inl rfl⟩, ?_, ?_, ?_⟩
    · rintro _ ⟨⟩
      exact .inl ⟨_, _, rfl⟩
    · intro b hb hran
      rw [List.mem_singleton.1 hb] at hran
      exact absurd hran (Order.not_ran_of_replies_grantLease hgrant)
    · exact fun _ => ⟨fun _ => .inl ⟨hpos, hwhy⟩, fun _ => ⟨_, _, rfl⟩⟩

section Granted

variable {g a r : ClusterVault.Answer} {l : LeaseId} {c₁ c₂ c₃ : Cluster}
  {reply : Except EngineError Transaction.Result} {ended : Except EngineError Unit}
  (hc : c.keyspace.Consistent) (hpos : 0 < ttl)
  (hgrant : c.serve s.user g.now limit (.grantLease ttl) = (.ok l, c₁))

include hc hpos hgrant

/-- What a write comes to that was granted a lease. -/
theorem Settles.of_granted {log : List ClusterVault.Answer} {last : Instant} {c' : Cluster}
    (hsize : secrets.size ≠ 0) (hle : g.now ≤ a.now)
    (hwrite : a.Replies s (.transact (writing secrets.toList (some l))) reply)
    (hserve : c₁.serve s.user a.now limit (.transact (writing secrets.toList (some l))) =
      (reply, c₂))
    (hmem : a ∈ log) (honce : ∀ b ∈ log, (Order.write secrets ttl).Ran s b → b = a)
    (htrace : ∀ e, written secrets.toList reply = .error e → c₂ = c₁.expire a.now →
      ∃ next, c' = (c.expire last).countFrom next ∧
        (next = c.keyspace.nextLease ∨ next = c.keyspace.nextLease + 1)) :
    Settles s secrets ttl limit c c' log g.now last
      ((written secrets.toList reply).map fun _ => none) := by
  obtain ⟨deadline, hdeadline, hlease, -, -, hkept⟩ := Cluster.grantLease_of_serve hc hgrant
  rcases Cluster.serve_grantLease_cases hpos c s.user g.now limit with
    ⟨hauth, deadline', hdeadline', hok⟩ | ⟨-, _, herror⟩
  · cases hgrant.symm.trans hok
    refine .of_write hc ((hc.expire g.now).grantLease deadline') hsize hwrite hserve rfl
      (fun id => hkept a.now id hle) hmem honce ?_ ?_ htrace
    · rintro ⟨-, hunknown | hlate⟩
      · exact hunknown hauth
      · cases hlate.symm.trans hdeadline'
    · rintro hrunning _ ⟨⟩
      have hlt := hrunning a hmem deadline hpos hdeadline
      show ((Keyspace.expire _ a.now).deadline? _).isSome
      rw [Keyspace.deadline?_expire, hlease]
      simp [Option.filter, hlt]
  · cases hgrant.symm.trans herror

/-- A lease that is revoked after a write has failed leaves nothing behind but its number. -/
theorem trace_of_revoked (hle : g.now ≤ a.now) (hle' : a.now ≤ r.now)
    (hsame : c₂ = c₁.expire a.now)
    (hrevoke : c₂.serve s.user r.now limit (.revokeLease l) = (ended, c₃)) :
    c₃ = (c.expire r.now).countFrom (c.keyspace.nextLease + 1) := by
  rcases Cluster.serve_grantLease_cases hpos c s.user g.now limit with
    ⟨hauth, deadline, -, hok⟩ | ⟨-, _, herror⟩
  · cases hgrant.symm.trans hok
    have hundone := Cluster.revokeLease_undoes_grantLease hc hauth deadline limit hle hle'
    rw [← hsame, hrevoke] at hundone
    exact hundone
  · cases hgrant.symm.trans herror

end Granted

/-- Of the requests of a write only the transaction is one. -/
theorem eq_of_ran {g a b : ClusterVault.Answer} {l : LeaseId} {rest : List ClusterVault.Answer}
    (hgrant : g.Replies s (.grantLease ttl) (.ok l))
    (hrest : ∀ r ∈ rest, ∃ ended, r.Replies s (.revokeLease l) ended) (hb : b ∈ g :: a :: rest)
    (hran : (Order.write secrets ttl).Ran s b) : b = a := by
  rcases List.mem_cons.1 hb with rfl | hb
  · exact absurd hran (Order.not_ran_of_replies_grantLease hgrant)
  · rcases List.mem_cons.1 hb with rfl | hb
    · rfl
    · obtain ⟨ended, hrevoke⟩ := hrest b hb
      exact absurd hran (Order.not_ran_of_replies_revokeLease hrevoke)

/-- If nobody else acts, a write that fails leaves everything as it was, up to leases that have run out
    and the number of a lease. It fails because secrets are there already, which are all named, or
    because the engine refuses a request, and it is told when it does. -/
theorem failed_write_leaves_no_trace
    (hlimit : (d.network site.servers).limitAt? s.server.id k = some limit)
    (hc : (d.network site.servers).clusters[k]? = some c) (hreach : c.Reachable)
    (hsize : secrets.size ≠ 0)
    (hrun : Run site (fun _ _ _ => False) ⟨d, s.perform (.set secrets ttl), []⟩ v)
    (hend : v.rest = .done answer) (hclock : v.log.Pairwise fun a b => a.now ≤ b.now) :
    ∃ first last c', v.log.head? = some first ∧ v.log.getLast? = some last ∧
      v.deployment.network site.servers = (d.network site.servers).setCluster k c' ∧
      Settles s secrets ttl limit c c' v.log first.now last.now answer := by
  have hlinked : d.Linked v.log v.deployment := hrun.linked (fun _ _ _ => id) fun _ => rfl
  obtain ⟨hcourse, hgiven⟩ := course_of_run hsize hrun hend
  have hconsistent := hreach.consistent
  have hstart : d.network site.servers = (d.network site.servers).setCluster k c :=
    (Network.setCluster_self hc).symm
  generalize v.log = log at hlinked hcourse hgiven hclock ⊢
  cases hcourse with
  | @direct a reply hnonpos hwrite =>
    obtain ⟨hbefore, hafter⟩ := hlinked
    obtain ⟨c', hserve, hnetwork⟩ := hwrite.serve (hgiven a List.mem_cons_self) hlimit hc
      ((hbefore site.servers).trans hstart)
    exact ⟨a, a, c', rfl, rfl, (hafter site.servers).trans hnetwork,
      .of_direct hconsistent hsize hnonpos hwrite hserve⟩
  | @refused g cause hpos hgrant =>
    obtain ⟨hbefore, hafter⟩ := hlinked
    obtain ⟨c', hserve, hnetwork⟩ := hgrant.serve (hgiven g List.mem_cons_self) hlimit hc
      ((hbefore site.servers).trans hstart)
    exact ⟨g, g, c', rfl, rfl, (hafter site.servers).trans hnetwork, .of_refused hpos hgrant hserve⟩
  | @granted g a l reply hpos hgrant hwrite hwritten =>
    obtain ⟨hbefore, hbetween, hafter⟩ := hlinked
    obtain ⟨hggiven, hagiven⟩ := List.forall_mem_cons.1 hgiven
    obtain ⟨c₁, hserve, hnetwork⟩ := hgrant.serve hggiven hlimit hc
      ((hbefore site.servers).trans hstart)
    obtain ⟨c₂, hserve', hnetwork'⟩ := hwrite.serve (hagiven a List.mem_cons_self) hlimit hc
      ((hbetween site.servers).trans hnetwork)
    refine ⟨g, a, c₂, rfl, rfl, (hafter site.servers).trans hnetwork', ?_⟩
    have hanswer : (.ok none : Answer) = (written secrets.toList reply).map fun _ => none := by
      rw [hwritten]
      rfl
    rw [hanswer]
    refine .of_granted hconsistent hpos hserve hsize ?_ hwrite hserve'
      (List.mem_cons_of_mem g List.mem_cons_self) (fun _ => eq_of_ran hgrant (List.forall_mem_nil _)) ?_
    · exact List.rel_of_pairwise_cons hclock List.mem_cons_self
    · intro e hfailed
      cases hwritten.symm.trans hfailed
  | @revoked g a r l reply ended e hpos hgrant hwrite hwritten hrevoke =>
    obtain ⟨hbefore, hbetween, hbetween', hafter⟩ := hlinked
    obtain ⟨hggiven, hlater⟩ := List.forall_mem_cons.1 hgiven
    obtain ⟨hagiven, hrgiven⟩ := List.forall_mem_cons.1 hlater
    have hle : g.now ≤ a.now := List.rel_of_pairwise_cons hclock List.mem_cons_self
    have hle' : a.now ≤ r.now := List.rel_of_pairwise_cons hclock.of_cons List.mem_cons_self
    obtain ⟨c₁, hserve, hnetwork⟩ := hgrant.serve hggiven hlimit hc
      ((hbefore site.servers).trans hstart)
    obtain ⟨c₂, hserve', hnetwork'⟩ := hwrite.serve hagiven hlimit hc
      ((hbetween site.servers).trans hnetwork)
    obtain ⟨c₃, hserve'', hnetwork''⟩ := hrevoke.serve (hrgiven r List.mem_cons_self) hlimit hc
      ((hbetween' site.servers).trans hnetwork')
    refine ⟨g, r, c₃, rfl, rfl, (hafter site.servers).trans hnetwork'', ?_⟩
    have hanswer : (.error e : Answer) = (written secrets.toList reply).map fun _ => none := by
      rw [hwritten]
      rfl
    rw [hanswer]
    refine .of_granted hconsistent hpos hserve hsize hle hwrite hserve'
      (List.mem_cons_of_mem g List.mem_cons_self) (fun _ => eq_of_ran hgrant fun _ hr => ?_) ?_
    · exact ⟨ended, List.mem_singleton.1 hr ▸ hrevoke⟩
    · intro _ _ hsame
      exact ⟨_, trace_of_revoked hconsistent hpos hserve hle hle' hsame hserve'', .inr rfl⟩

/-! ## A trial -/

/-- A cluster of two servers that keeps a secret. -/
def stocked : Network :=
  ({ ids := { draw := (· + 1) } } : Network).afterAll (Network.pairing "a" "b" ++
    [.serve 0 0 administrator (.transact (writing [("k", [1])] none))])

/-- A deployment with this cluster. -/
def stockedDeployment : Deployment where
  machine := { files := {}, clock := 0 }
  networks := [("net", stocked)]
  streams := fun _ n => n + 1

/-- What a call answers, if it is answered at once. -/
def answer? (d : Deployment) (s : SecretStore) (call : SecretCall) : Option Answer :=
  match Deployment.backend.advance ⟨"net", "net"⟩ none 0 (s.perform call) d with
  | (_, .ended answer) => some answer
  | _ => none

theorem run_of_answer? {call : SecretCall} (h : answer? d s call = some answer) : ∃ v,
    Run ⟨"net", "net"⟩ (fun _ _ _ => False) ⟨d, s.perform call, []⟩ v ∧ v.rest = .done answer ∧
      ∀ a ∈ v.log, a.now = 0 := by
  unfold answer? at h
  split at h
  · next heq =>
    cases h
    obtain ⟨log, hnow, hrun⟩ := Run.of_advance_now (fun _ _ _ => False) [] heq
    exact ⟨_, hrun, rfl, hnow⟩
  · cases h

/-- Of two secrets one is there already. It is named, the other one is not written, and the lease is
    revoked. -/
theorem failed_write_leaves_no_trace_conflict :
    ∃ c v next, stocked.clusters[0]? = some c ∧
      Run ⟨"net", "net"⟩ (fun _ _ _ => False)
        ⟨stockedDeployment, perform ⟨⟨0, "a"⟩, administrator⟩
          (.set {("k", [2]), ("l", [3])} 60), []⟩ v ∧
      v.rest = .done (.error (.secretsExist ["k"])) ∧
      v.deployment.network "net" = stocked.setCluster 0 ((c.expire 0).countFrom next) := by
  have hanswer : answer? stockedDeployment ⟨⟨0, "a"⟩, administrator⟩
      (.set {("k", [2]), ("l", [3])} 60) = some (.error (.secretsExist ["k"])) := by
    decide +kernel
  obtain ⟨v, hrun, hend, hnow⟩ := run_of_answer? hanswer
  obtain ⟨c, hc⟩ : ∃ c, (stockedDeployment.network "net").clusters[0]? = some c :=
    Option.isSome_iff_exists.1 (by decide +kernel)
  have hlimit : (stockedDeployment.network "net").limitAt? 0 0 = some 128 := by decide +kernel
  have hsize : Std.ExtTreeMap.size ({("k", [2]), ("l", [3])} : Secrets) ≠ 0 := by decide +kernel
  have hreach : c.Reachable := Network.rooted_afterAll _ _ c (List.mem_of_getElem? hc)
  have hclock : v.log.Pairwise fun a b => a.now ≤ b.now := by
    refine List.pairwise_of_forall_mem_list fun a ha b hb => ?_
    rw [hnow a ha, hnow b hb]
  obtain ⟨first, last, c', -, hlast, hnetwork, hsettles⟩ :=
    failed_write_leaves_no_trace hlimit hc hreach hsize hrun hend hclock
  obtain ⟨next, rfl, -⟩ := hsettles.trace _ rfl
  rw [hnow last (List.mem_of_getLast? hlast)] at hnetwork
  exact ⟨c, v, next, hc, hrun, hend, hnetwork⟩

end SecretStore

end ClusterVault
